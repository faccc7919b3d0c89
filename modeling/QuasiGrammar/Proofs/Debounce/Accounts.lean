import Mathlib.Data.List.Basic
import QuasiGrammar.Proofs.Debounce.Simulation

/-
  QuasiGrammar.Proofs.Debounce.Accounts
  ─────────────────────────────────────
  **The records of the runs account for all that is seen.**

  Runs are served one at a time, so at every moment all recorded runs but the
  last have ended, and the work that is left of the last one is what the line
  has still to do (`InTurn`).  With it goes that the events of the log are those
  of the records and those that were seen besides, each as often as it was seen
  (`Line.Accounts`).  A piece of work keeps this (`Accounts.works`), and hence a
  tick does (`accounts_tick`).
-/

namespace QuasiGrammar

variable {ι α σ τ ε : Type} {a : Action ι α σ τ ε}

/-! ## §1. One run at a time. -/

/-- The runs took place, all of them have ended, and if something is left to be done then it is left
of the last one, which has not ended. -/
def Action.InTurn (a : Action ι α σ τ ε) (runs : List (Record ι α ε)) : Option τ → Prop
  | none => ∀ run ∈ runs, a.Ran run none
  | some task =>
      ∃ before run, runs = before ++ [run] ∧ (∀ earlier ∈ before, a.Ran earlier none) ∧
        a.Ran run (some task)

theorem Action.inTurn_concat {before : List (Record ι α ε)} {run : Record ι α ε} {task : Option τ}
    (hbefore : ∀ earlier ∈ before, a.Ran earlier none) (hrun : a.Ran run task) :
    a.InTurn (before ++ [run]) task := by
  cases task with
  | some task => exact ⟨before, run, rfl, hbefore, hrun⟩
  | none =>
    intro other hother
    rcases List.mem_append.1 hother with hother | hother
    · exact hbefore other hother
    · rw [List.mem_singleton.1 hother]
      exact hrun

/-- Every run is one that took place, whether it has ended or not. -/
theorem Action.InTurn.exists_ran {runs : List (Record ι α ε)} {task : Option τ}
    (h : a.InTurn runs task) {run : Record ι α ε} (hrun : run ∈ runs) : ∃ left, a.Ran run left := by
  cases task with
  | none => exact ⟨none, h run hrun⟩
  | some task =>
    obtain ⟨before, last, rfl, hbefore, hlast⟩ := h
    rcases List.mem_append.1 hrun with hrun | hrun
    · exact ⟨none, hbefore run hrun⟩
    · rw [List.mem_singleton.1 hrun]
      exact ⟨some task, hlast⟩

/-- A run has a result just if nothing is left of it. -/
theorem Action.Ran.isSome_result {run : Record ι α ε} {left : Option τ} (h : a.Ran run left) :
    run.result.isSome = left.isNone := by
  have hstop : ∀ stop : Stop α τ, stop.result?.isSome = stop.task?.isNone := by
    intro stop
    cases stop <;> rfl
  cases h with
  | begins inputs state => exact hstop _
  | goesOn h state => exact hstop _

/-! ## §2. Lines. -/

namespace Line

variable {l l' : Line ι σ τ ε} {runs : List (Record ι α ε)} {besides : List ε}

/-- The records and what was seen besides account for the line. -/
structure Accounts (a : Action ι α σ τ ε) (l : Line ι σ τ ε) (runs : List (Record ι α ε))
    (besides : List ε) : Prop where
  inputs : runs.map (·.inputs) = l.begun
  events : (l.log.map (·.2)).Perm (runs.flatMap (·.events) ++ besides)
  inTurn : a.InTurn runs (l.current.map (·.task))

theorem accounts_initial (state : σ) : (Line.initial state : Line ι σ τ ε).Accounts a [] [] where
  inputs := rfl
  events := .refl _
  inTurn := nofun

/-- Whatever leaves the runs and the log alone. -/
theorem Accounts.of_same (h : l.Accounts a runs besides) (hcurrent : l'.current = l.current)
    (hbegun : l'.begun = l.begun) (hlog : l'.log = l.log) : l'.Accounts a runs besides where
  inputs := h.inputs.trans hbegun.symm
  events := hlog ▸ h.events
  inTurn := hcurrent ▸ h.inTurn

theorem events_see (l : Line ι σ τ ε) (events : List ε) :
    (l.see events).log.map (·.2) = l.log.map (·.2) ++ events := by
  unfold see
  rw [List.map_append, List.map_map]
  exact congrArg _ (List.map_id events)

theorem Accounts.see (h : l.Accounts a runs besides) (events : List ε) :
    (l.see events).Accounts a runs (besides ++ events) where
  inputs := h.inputs
  events := by
    rw [events_see, ← List.append_assoc]
    exact h.events.append_right events
  inTurn := h.inTurn

/-- What is seen of a stretch of work is seen by the line. -/
theorem events_serve (l : Line ι σ τ ε) (inputs : ι) (s : Stretch α σ τ ε) :
    (l.serve a inputs s).log.map (·.2) = l.log.map (·.2) ++ a.seen s := by
  have hseen := events_see ({ l with state := s.state } : Line ι σ τ ε) s.events
  unfold serve Action.seen
  cases s.stop with
  | paused ms task => exact hseen
  | ended result =>
    have hwarned := events_see (({ l with state := s.state } : Line ι σ τ ε).see s.events)
      (Runner.warningOf a result)
    rw [hseen, List.append_assoc] at hwarned
    exact hwarned

theorem task_serve (l : Line ι σ τ ε) (inputs : ι) (s : Stretch α σ τ ε) :
    (l.serve a inputs s).current.map (·.task) = s.stop.task? := by
  unfold serve
  cases s.stop <;> rfl

/-- What is seen last may stand before what was seen besides. -/
theorem perm_move (before besides new : List ε) :
    ((before ++ besides) ++ new).Perm ((before ++ new) ++ besides) := by
  rw [List.append_assoc, List.append_assoc]
  exact List.perm_append_comm.append_left before

/-- **A piece of work goes to the record of the run that it works on.** -/
theorem Accounts.works {piece : Option (Piece ι α σ τ ε)} (h : l.Accounts a runs besides)
    (hworks : l.Works a piece l') : l'.Accounts a (noted a runs piece) besides := by
  cases hworks with
  | idle hcurrent hbegun hlog => exact h.of_same hcurrent hbegun hlog
  | begins inputs rest hfree =>
    let s := a.start inputs l.state
    have hended := h.inTurn
    rw [hfree] at hended
    constructor
    · rw [noted, List.map_append, h.inputs, begin, begun_serve]
      rfl
    · rw [begin, events_serve, noted, List.flatMap_append, List.flatMap_singleton]
      exact (h.events.append_right (a.seen s)).trans (perm_move _ _ _)
    · rw [begin, task_serve]
      exact Action.inTurn_concat hended (.begins inputs l.state)
  | @goesOn p hcurrent =>
    let s := a.resume p.task l.state
    have hturn := h.inTurn
    rw [hcurrent] at hturn
    obtain ⟨before, run, rfl, hbefore, hrun⟩ := hturn
    -- The run that is served is the last one.
    have hnoted : noted a (before ++ [run]) (some (Piece.goesOn s)) =
        before ++ [run.continued a s] := by
      rw [noted, List.dropLast_concat, List.getLast?_concat]
      rfl
    rw [hnoted]
    constructor
    · rw [resume, begun_serve, ← h.inputs, List.map_append, List.map_append]
      rfl
    · have hevents := h.events
      rw [List.flatMap_append, List.flatMap_singleton] at hevents
      rw [resume, events_serve, List.flatMap_append, List.flatMap_singleton, Record.continued,
        ← List.append_assoc]
      exact (hevents.append_right (a.seen s)).trans (perm_move _ _ _)
    · rw [resume, task_serve]
      exact Action.inTurn_concat hbefore (.goesOn hrun l.state)

end Line

/-! ## §3. Runners. -/

namespace Runner

variable {r : Runner ι α σ τ ε} {runs : List (Record ι α ε)} {besides : List ε}

/-- The records and what was seen besides account for the runner. -/
def Accounts (a : Action ι α σ τ ε) (r : Runner ι α σ τ ε) (runs : List (Record ι α ε))
    (besides : List ε) : Prop :=
  ∃ l, Shows False r l ∧ l.Accounts a runs besides

theorem accounts_initial (state : σ) : (Runner.initial state).Accounts a [] [] :=
  ⟨_, shows_initial False state, Line.accounts_initial state⟩

namespace Accounts

theorem see (h : r.Accounts a runs besides) (events : List ε) :
    (r.see events).Accounts a runs (besides ++ events) := by
  obtain ⟨l, hshows, hl⟩ := h
  exact ⟨_, shows_see hshows events, hl.see events⟩

theorem schedule (h : r.Accounts a runs besides) (quiet : Option Int) (x : ι) :
    (r.schedule quiet x).Accounts a runs besides := by
  obtain ⟨l, hshows, hl⟩ := h
  exact ⟨_, shows_schedule hshows quiet x, hl.of_same rfl rfl rfl⟩

theorem cancel (h : r.Accounts a runs besides) : r.cancel.Accounts a runs besides := by
  obtain ⟨l, hshows, hl⟩ := h
  exact ⟨_, shows_cancel hshows, hl.of_same rfl rfl rfl⟩

theorem state (h : r.Accounts a runs besides) (state : σ) :
    ({ r with state := state } : Runner ι α σ τ ε).Accounts a runs besides := by
  obtain ⟨l, hshows, hl⟩ := h
  exact ⟨_, shows_state hshows state, hl.of_same rfl rfl rfl⟩

theorem clock (h : r.Accounts a runs besides) (time : Nat) :
    ({ r with clock := time } : Runner ι α σ τ ε).Accounts a runs besides := by
  obtain ⟨l, hshows, hl⟩ := h
  exact ⟨_, (shows_pass a hshows (fun hf => hf.elim) fun hf => hf.elim).2, hl.of_same rfl rfl rfl⟩

/-- **What is seen in a tick goes to the records.** -/
theorem tick (h : r.Accounts a runs besides) (t : Tick) :
    (r.tick a t).Accounts a (r.notedBy a runs t) besides := by
  obtain ⟨l, hshows, hl⟩ := h
  cases t with
  | tidy => exact ⟨l, shows_dropVoid _ hshows, hl⟩
  | gather => exact ⟨l, shows_gather hshows, hl⟩
  | turn =>
    obtain ⟨l', -, hworks, -, hshows'⟩ := shows_takeNext a hshows
    exact ⟨l', hshows', hl.works hworks⟩
  | wait ms =>
    unfold Runner.tick
    by_cases hcalm : r.isCalm (r.clock + ms) = true
    · simp only [if_pos hcalm]
      exact clock ⟨l, hshows, hl⟩ _
    · simp only [if_neg hcalm]
      exact ⟨l, hshows, hl⟩

/-- Once no run is active, all have ended. -/
theorem ended (h : r.Accounts a runs besides) (hidle : r.scheduler.running = false) :
    ∀ run ∈ runs, a.Ran run none := by
  obtain ⟨l, hshows, hl⟩ := h
  have hturn := hl.inTurn
  rw [(line_of_not_running hshows hidle).1] at hturn
  exact hturn

end Accounts

end Runner

end QuasiGrammar
