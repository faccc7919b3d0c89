import QuasiGrammar.Debounce.Vigil
import QuasiGrammar.Proofs.Debounce.Simulation

/-
  QuasiGrammar.Proofs.Debounce.Idle
  ─────────────────────────────────
  **The flag `idle` is up just if there is nothing left to do.**

  The flag goes down in one step of a scheduler and is looked at in two others,
  while the timer and the runs change in all of them.  So every step is asked
  whether it keeps the flag exact.  A turn of the runner then either leaves
  timer, flag and number of runs alone, or fires the timer, or lets a run retire
  (`takeNext_cases`), and what is written down from outside agrees with it.

      IsExact                      kept by every step of a scheduler
      agrees_occur, agrees_play    runner and tally agree, after each thing that
                                   happens and after all of them
      idle_iff_nothing_to_do       the flag, and those who wait for it
-/

namespace QuasiGrammar

variable {ι α σ τ ε : Type}

/-! ## §1. Schedulers whose flag is exact. -/

namespace Debounce

variable {d d' : Debounce ι}

/-- The flag is up just if no timer is armed and there is no run. -/
def IsExact (d : Debounce ι) : Prop := d.idle = true ↔ d.pending = false ∧ d.running = false

/-- The flag is as it was, the timer too, and there are as many runs. -/
structure Stays (d d' : Debounce ι) : Prop where
  timer : d'.timer = d.timer
  idle : d'.idle = d.idle
  runs : d'.runs.length = d.runs.length

namespace Stays

theorem refl (d : Debounce ι) : Stays d d := ⟨rfl, rfl, rfl⟩

theorem trans {d'' : Debounce ι} (h : Stays d d') (h' : Stays d' d'') : Stays d d'' :=
  ⟨h'.timer.trans h.timer, h'.idle.trans h.idle, h'.runs.trans h.runs⟩

theorem pending (h : Stays d d') : d'.pending = d.pending := by
  unfold Debounce.pending
  rw [h.timer]

theorem running (h : Stays d d') : d'.running = d.running := by
  have hnil : d'.runs = [] ↔ d.runs = [] := by
    rw [← List.length_eq_zero_iff, h.runs, List.length_eq_zero_iff]
  unfold Debounce.running
  by_cases hempty : d.runs = []
  · rw [hempty, hnil.2 hempty]
  · rw [List.isEmpty_eq_false_iff.2 hempty, List.isEmpty_eq_false_iff.2 (mt hnil.1 hempty)]

theorem isExact (h : Stays d d') (hexact : d.IsExact) : d'.IsExact := by
  unfold IsExact
  rw [h.idle, h.pending, h.running]
  exact hexact

/-- No run is lost or added when one of them begins to wait, or begins. -/
theorem move (d : Debounce ι) (old new : Phase) : Stays d (d.move old new).2 := by
  have hinputs := congrArg List.length (d.inputs_move old new)
  rw [List.length_map, List.length_map] at hinputs
  refine ⟨?_, ?_, hinputs⟩ <;> (unfold Debounce.move; split <;> rfl)

theorem enter (d : Debounce ι) : Stays d d.enter.2 := by
  unfold Debounce.enter
  split
  · exact .move d .queued .waiting
  · exact .move d .queued .underway

theorem wake (d : Debounce ι) : Stays d d.wake.2 := .move d .waiting .underway

/-- A run that has come to its end is there until it retires. -/
theorem finish (d : Debounce ι) : Stays d d.finish := ⟨rfl, rfl, List.length_map _⟩

end Stays

theorem isExact_initial : (initial : Debounce ι).IsExact := by
  unfold IsExact
  exact ⟨fun _ => ⟨rfl, rfl⟩, fun _ => rfl⟩

/-- The flag is put right, if it is not up wrongly. -/
theorem isExact_updateIdle (h : d.idle = true → d.pending = false ∧ d.running = false) :
    d.updateIdle.IsExact := by
  unfold IsExact
  rw [pending_updateIdle, running_updateIdle]
  unfold updateIdle
  by_cases hbusy : (d.pending || d.running) = true
  · rw [if_pos hbusy]
    refine ⟨h, ?_⟩
    intro hclear
    rw [hclear.1, hclear.2] at hbusy
    cases hbusy
  · rw [if_neg hbusy]
    have hclear : d.pending = false ∧ d.running = false := by simpa using hbusy
    exact ⟨fun _ => hclear, fun _ => rfl⟩

theorem isExact_schedule (d : Debounce ι) (x : ι) : (d.schedule x).IsExact := by
  unfold IsExact
  rw [pending_schedule]
  constructor
  · intro hidle
    cases hidle
  · intro hclear
    cases hclear.1

theorem IsExact.cancel (h : d.IsExact) : d.cancel.IsExact := by
  apply isExact_updateIdle
  intro hidle
  exact ⟨rfl, (h.1 hidle).2⟩

/-- The flag stays down when the timer becomes a run. -/
theorem IsExact.fire (h : d.IsExact) : d.fire.IsExact := by
  cases htimer : d.timer with
  | none =>
    have hsame : d.fire = d := by
      unfold Debounce.fire
      rw [htimer]
    rw [hsame]
    exact h
  | some t =>
    have hpending : d.pending = true := by
      unfold pending
      rw [htimer]
      rfl
    have hidle : d.fire.idle = d.idle := by
      unfold Debounce.fire
      rw [htimer]
    unfold IsExact
    rw [hidle, running_fire hpending]
    constructor
    · intro hup
      rw [(h.1 hup).1] at hpending
      cases hpending
    · intro hclear
      cases hclear.2

theorem length_runs_fire (h : d.pending = true) : d.fire.runs.length = d.runs.length + 1 := by
  unfold pending at h
  unfold Debounce.fire
  cases htimer : d.timer with
  | none =>
    rw [htimer] at h
    cases h
  | some t => exact List.length_append

theorem pending_reap (d : Debounce ι) : d.reap.pending = d.pending := pending_updateIdle _

theorem IsExact.reap (h : d.IsExact) : d.reap.IsExact := by
  apply isExact_updateIdle
  intro hidle
  obtain ⟨hpending, hrunning⟩ := h.1 hidle
  have hruns : d.runs = [] := by simpa [Debounce.running] using hrunning
  refine ⟨hpending, ?_⟩
  unfold Debounce.running
  rw [hruns]
  rfl

end Debounce

/-! ## §2. Turns. -/

namespace Runner

open Debounce (Stays)

variable {r : Runner ι α σ τ ε} {l : Line ι σ τ ε}

theorem stays_absorb (a : Action ι α σ τ ε) (isRun : Bool) (s : Stretch α σ τ ε)
    (r : Runner ι α σ τ ε) : Stays r.scheduler (absorb a isRun s r).scheduler := by
  unfold absorb
  cases s.stop with
  | paused ms task => exact .refl _
  | ended result =>
    cases isRun with
    | false => exact .refl _
    | true =>
      simp only [if_pos]
      rw [conclude_eq]
      exact .finish _

theorem stays_begin (a : Action ι α σ τ ε) {p : Option ι × Debounce ι}
    (h : Stays r.scheduler p.2) : Stays r.scheduler (begin a r p).scheduler := by
  obtain ⟨_ | inputs, d⟩ := p
  · exact h
  · exact h.trans (stays_absorb a true _ { r with scheduler := d, begun := r.begun ++ [inputs] })

/-- What drops turns of the agenda, or makes them ready, leaves the scheduler alone. -/
theorem scheduler_tick (a : Action ι α σ τ ε) (r : Runner ι α σ τ ε) {t : Tick} (ht : t ≠ .turn) :
    (r.tick a t).scheduler = r.scheduler := by
  cases t with
  | turn => exact absurd rfl ht
  | tidy =>
    exact dropVoid_induction (P := fun r' => r'.scheduler = r.scheduler)
      (fun _ _ _ _ _ h => h) _ rfl
  | gather =>
    exact collect_induction (P := fun r' => r'.scheduler = r.scheduler)
      (fun _ _ _ _ _ h => h) _ rfl
  | wait ms =>
    by_cases hcalm : r.isCalm (r.clock + ms) = true
    · rw [tick_wait_of_calm a hcalm]
    · rw [tick_wait_of_not_calm a hcalm]

/-- The turn of a timer: it fires, or it has been armed anew or disarmed. -/
theorem ring_cases (a : Action ι α σ τ ε) (w : Tally) {number : Nat} {rest : List (Turn ι τ)}
    (hready : r.ready = .ring number :: rest) :
    w.noteTurn r = w ∧ (r.takeNext a).scheduler = r.scheduler ∨
      w.noteTurn r = { w with armed := false, fired := w.fired + 1 } ∧
        r.scheduler.pending = true ∧ (r.takeNext a).scheduler = r.scheduler.fire := by
  unfold Tally.noteTurn takeNext
  rw [hready]
  unfold take
  by_cases harmed : r.scheduler.isArmed number = true
  · right
    simp only [if_pos harmed]
    refine ⟨trivial, ?_, rfl⟩
    -- A timer that has the number is a timer.
    unfold Debounce.isArmed at harmed
    unfold Debounce.pending
    cases htimer : r.scheduler.timer with
    | none =>
      rw [htimer] at harmed
      cases harmed
    | some t => rfl
  · left
    simp only [if_neg harmed]
    exact ⟨trivial, trivial⟩

/-- The turn of a run that retires: there is one that has come to its end. -/
theorem length_runs_retire (h : Shows False r l) {rest : List (Turn ι τ)}
    (hready : r.ready = .retire :: rest) :
    r.scheduler.reap.runs.length + 1 = r.scheduler.runs.length := by
  obtain ⟨-, -, ended, waiting, queued, hruns, hcounts, -⟩ := h.ready hready
  -- Runs that have come to their end are counted by the turns with which they retire.
  obtain ⟨-, -, n, -, -, hn, -⟩ := hcounts.drop
  cases ended with
  | nil => cases hn
  | cons x ended =>
    rw [Debounce.reap_arranged hruns, hruns]
    simp [Debounce.arranged]

/-- The turns of which nothing is written down leave the scheduler as it is, but for how far its runs
have come. -/
theorem stays_take (a : Action ι α σ τ ε) (r : Runner ι α σ τ ε) {t : Turn ι τ}
    (hring : ∀ number, t ≠ .ring number) (hretire : t ≠ .retire) :
    Stays r.scheduler (take a r t).scheduler := by
  cases t with
  | ring number => exact absurd rfl (hring number)
  | retire => exact absurd rfl hretire
  | enter => exact stays_begin a (.enter r.scheduler)
  | wake => exact stays_begin a (.wake r.scheduler)
  | rouse isRun task => exact .refl _
  | resume isRun task => exact stays_absorb a isRun _ r
  | beside inputs => exact stays_absorb a false _ r

/-- **What a turn does to the scheduler, and what is written down of it**: nothing; or the timer
fires; or a run retires. -/
theorem takeNext_cases (a : Action ι α σ τ ε) (w : Tally) (h : Shows False r l) :
    w.noteTurn r = w ∧ Stays r.scheduler (r.takeNext a).scheduler ∨
      w.noteTurn r = { w with armed := false, fired := w.fired + 1 } ∧
        r.scheduler.pending = true ∧ (r.takeNext a).scheduler = r.scheduler.fire ∨
      w.noteTurn r = { w with retired := w.retired + 1 } ∧
        r.scheduler.reap.runs.length + 1 = r.scheduler.runs.length ∧
        (r.takeNext a).scheduler = r.scheduler.reap := by
  have hnext : ∀ t rest, r.ready = t :: rest →
      r.takeNext a = take a { r with ready := rest } t := by
    intro t rest hready
    unfold takeNext
    rw [hready]
  cases hready : r.ready with
  | nil =>
    left
    unfold Tally.noteTurn takeNext
    rw [hready]
    exact ⟨rfl, .refl _⟩
  | cons t rest =>
    cases t with
    | ring number =>
      rcases ring_cases a w hready with ⟨hnote, hsame⟩ | hfires
      · refine .inl ⟨hnote, ?_⟩
        rw [hsame]
        exact .refl _
      · exact .inr (.inl hfires)
    | retire =>
      right
      right
      refine ⟨?_, length_runs_retire h hready, ?_⟩
      · unfold Tally.noteTurn
        rw [hready]
      · rw [hnext _ _ hready]
        rfl
    | enter | wake | rouse _ _ | resume _ _ | beside _ =>
      left
      unfold Tally.noteTurn
      rw [hnext _ _ hready, hready]
      exact ⟨rfl, stays_take a { r with ready := rest } (by simp) (by simp)⟩

/-! ## §3. Ticks and calls. -/

/-- A tick keeps the flag exact. -/
theorem isExact_tick (a : Action ι α σ τ ε) (h : Shows False r l)
    (hexact : r.scheduler.IsExact) (t : Tick) : (r.tick a t).scheduler.IsExact := by
  by_cases ht : t = .turn
  · subst ht
    show (r.takeNext a).scheduler.IsExact
    rcases takeNext_cases a .initial h with ⟨-, hstays⟩ | ⟨-, -, hfires⟩ | ⟨-, -, hretires⟩
    · exact hstays.isExact hexact
    · rw [hfires]
      exact hexact.fire
    · rw [hretires]
      exact hexact.reap
  · rw [scheduler_tick a r ht]
    exact hexact

/-- A runner that looks like a line, with an exact flag. -/
def IsSound (r : Runner ι α σ τ ε) : Prop := (∃ l, Shows False r l) ∧ r.scheduler.IsExact

theorem isSound_initial (state : σ) : (Runner.initial state : Runner ι α σ τ ε).IsSound :=
  ⟨⟨_, shows_initial False state⟩, Debounce.isExact_initial⟩

namespace IsSound

theorem schedule (h : r.IsSound) (quiet : Option Int) (x : ι) : (r.schedule quiet x).IsSound := by
  obtain ⟨⟨l, hl⟩, -⟩ := h
  refine ⟨⟨_, shows_schedule hl quiet x⟩, ?_⟩
  cases quiet <;> exact Debounce.isExact_schedule r.scheduler x

theorem cancel (h : r.IsSound) : r.cancel.IsSound := by
  obtain ⟨⟨l, hl⟩, hexact⟩ := h
  exact ⟨⟨_, shows_cancel hl⟩, hexact.cancel⟩

theorem tick (h : r.IsSound) (a : Action ι α σ τ ε) (t : Tick) : (r.tick a t).IsSound := by
  obtain ⟨⟨l, hl⟩, hexact⟩ := h
  obtain ⟨l', -, -, hl'⟩ := shows_tick a hl t
  exact ⟨⟨l', hl'⟩, isExact_tick a hl hexact t⟩

/-- The flag does not look at the clock. -/
theorem clock (h : r.IsSound) (a : Action ι α σ τ ε) (time : Nat) :
    ({ r with clock := time } : Runner ι α σ τ ε).IsSound := by
  obtain ⟨⟨l, hl⟩, hexact⟩ := h
  have hl' : Shows False { r with clock := time } { l with clock := time } :=
    (shows_pass a hl (fun hf => hf.elim) fun hf => hf.elim).2
  exact ⟨⟨_, hl'⟩, hexact⟩

end IsSound

/-- Time passes alike for two conditions that cannot be told apart in what comes of a runner. -/
theorem pass_congr {a : Action ι α σ τ ε} {P : Runner ι α σ τ ε → Prop}
    (htick : ∀ r t, P r → P (r.tick a t))
    (hclock : ∀ (r : Runner ι α σ τ ε) time, P r → P { r with clock := time })
    {c c' : Runner ι α σ τ ε → Bool} (hc : ∀ r, P r → c r = c' r) (limit : Option Nat) (n : Nat)
    {r : Runner ι α σ τ ε} (h : P r) : pass a limit c n r = pass a limit c' n r := by
  induction n generalizing r with
  | zero => rfl
  | succ n ih =>
    unfold pass
    rw [hc r h]
    by_cases hcond : c' r = true
    · rw [if_pos hcond, if_pos hcond]
    · rw [if_neg hcond, if_neg hcond]
      simp only
      cases r.tidy.nextTime? with
      | none => rfl
      | some time =>
        by_cases hbeyond : (limit.any fun m => decide (m < time)) = true
        · simp only [if_pos hbeyond]
        · simp only [if_neg hbeyond]
          apply ih
          rw [round_eq_ticks]
          exact ticks_induction htick _ (hclock _ time (htick r .tidy h))

end Runner

/-! ## §4. What is written down, and those who wait. -/

namespace Vigil

variable {v : Vigil ι α σ τ ε} {w : Tally} {r : Runner ι α σ τ ε}

/-- The runner and what has been written down agree, and nobody waits for a flag that is up. -/
structure Agrees (v : Vigil ι α σ τ ε) (w : Tally) : Prop where
  sound : v.runner.IsSound
  armed : w.armed = v.runner.scheduler.pending
  unfinished : w.retired + v.runner.scheduler.runs.length = w.fired
  free : v.runner.scheduler.idle = true → v.waiting = []

theorem agrees_initial (state : σ) : Agrees (initial state : Vigil ι α σ τ ε) .initial :=
  ⟨Runner.isSound_initial state, rfl, rfl, fun _ => rfl⟩

/-- **The flag is up just if, by what has been written down, there is nothing left to do.** -/
theorem Agrees.idle_iff (h : Agrees v w) :
    v.runner.scheduler.idle = true ↔ w.IsClear := by
  have hrunning : v.runner.scheduler.running = false ↔ w.fired = w.retired := by
    have hsum := h.unfinished
    unfold Debounce.running
    rw [Bool.not_eq_false', List.isEmpty_iff_length_eq_zero]
    omega
  have hexact := h.sound.2
  unfold Debounce.IsExact at hexact
  rw [hexact, hrunning, ← h.armed]
  exact Iff.rfl

@[simp]
theorem runner_become (v : Vigil ι α σ τ ε) (r : Runner ι α σ τ ε) : (v.become r).runner = r := by
  unfold become
  split <;> rfl

theorem waiting_become (h : v.runner.scheduler.idle = true → v.waiting = [])
    (hup : r.scheduler.idle = true) : (v.become r).waiting = [] := by
  unfold become
  cases hbefore : v.runner.scheduler.idle with
  | false => simp [hup]
  | true => simpa [hup] using h hbefore

/-- Nobody is let go unless the flag is up then. -/
theorem released_become (hne : (v.become r).released ≠ v.released) :
    r.scheduler.idle = true := by
  unfold become at hne
  split at hne
  · next hup => simp_all
  · exact absurd rfl hne

/-- The runner goes on to a state that agrees with what is written down then. -/
theorem Agrees.become (h : Agrees v w) {w' : Tally} (hsound : r.IsSound)
    (harmed : w'.armed = r.scheduler.pending)
    (hunfinished : w'.retired + r.scheduler.runs.length = w'.fired) :
    Agrees (v.become r) w' where
  sound := by rw [runner_become]; exact hsound
  armed := by rw [runner_become]; exact harmed
  unfinished := by rw [runner_become]; exact hunfinished
  free := by rw [runner_become]; exact waiting_become h.free

/-- A turn is written down rightly. -/
theorem Agrees.turn (a : Action ι α σ τ ε) (h : Agrees v w) :
    Agrees (v.occur a (.tick .turn)) (w.noteTurn v.runner) := by
  have hsum := h.unfinished
  have hsound := h.sound.tick a .turn
  obtain ⟨⟨l, hl⟩, -⟩ := h.sound
  rcases v.runner.takeNext_cases a w hl with ⟨hnote, hstays⟩ | ⟨hnote, hpending, hfires⟩ |
    ⟨hnote, hlength, hretires⟩
  · rw [hnote]
    refine h.become hsound (h.armed.trans hstays.pending.symm) ?_
    show _ + (v.runner.takeNext a).scheduler.runs.length = _
    rw [hstays.runs]
    exact hsum
  · rw [hnote]
    apply h.become hsound
    · show false = (v.runner.takeNext a).scheduler.pending
      rw [hfires, Debounce.pending_fire]
    · -- The timer's inputs are one run more.
      show w.retired + (v.runner.takeNext a).scheduler.runs.length = w.fired + 1
      rw [hfires, Debounce.length_runs_fire hpending]
      omega
  · rw [hnote]
    apply h.become hsound
    · show w.armed = (v.runner.takeNext a).scheduler.pending
      rw [hretires, Debounce.pending_reap]
      exact h.armed
    · show w.retired + 1 + (v.runner.takeNext a).scheduler.runs.length = w.fired
      rw [hretires]
      omega

/-- **Whatever happens is written down rightly**, and nobody is left to wait for a flag that is
up. -/
theorem agrees_occur (a : Action ι α σ τ ε) (h : Agrees v w) (i : Incident ι) :
    Agrees (v.occur a i) (w.note v.runner i) := by
  cases i with
  | schedule quiet x =>
    apply h.become (h.sound.schedule quiet x)
    · cases quiet <;> rfl
    · have hsame : (v.runner.schedule quiet x).scheduler.runs = v.runner.scheduler.runs := by
        cases quiet <;> rfl
      rw [hsame]
      exact h.unfinished
  | cancel =>
    apply h.become h.sound.cancel
    · exact (Debounce.pending_cancel _).symm
    · show w.retired + (Debounce.updateIdle _).runs.length = w.fired
      rw [Debounce.runs_updateIdle]
      exact h.unfinished
  | tick t =>
    by_cases ht : t = .turn
    · subst ht
      exact h.turn a
    · have hnote : w.note v.runner (.tick t) = w := by
        cases t with
        | turn => exact absurd rfl ht
        | tidy | gather | wait ms => rfl
      have hsame := v.runner.scheduler_tick a ht
      rw [hnote]
      apply h.become (h.sound.tick a t)
      · rw [hsame]
        exact h.armed
      · rw [hsame]
        exact h.unfinished
  | wait who =>
    show Agrees (v.await who) w
    unfold await
    by_cases hup : v.runner.scheduler.idle = true
    · rw [if_pos hup]
      exact ⟨h.sound, h.armed, h.unfinished, h.free⟩
    · rw [if_neg hup]
      exact ⟨h.sound, h.armed, h.unfinished, fun hidle => absurd hidle hup⟩

/-- Whoever comes to wait is among those who wait or those who need not. -/
theorem everyone_occur (a : Action ι α σ τ ε) (h : Agrees v w) (i : Incident ι) :
    (v.occur a i).released ++ (v.occur a i).waiting =
      v.released ++ v.waiting ++ i.waiter?.toList := by
  have hbecome : ∀ r, (v.become r).released ++ (v.become r).waiting = v.released ++ v.waiting := by
    intro r
    unfold become
    split
    · exact List.append_nil _
    · rfl
  cases i with
  | schedule quiet x => exact (hbecome _).trans (List.append_nil _).symm
  | cancel => exact (hbecome _).trans (List.append_nil _).symm
  | tick t => exact (hbecome _).trans (List.append_nil _).symm
  | wait who =>
    show (v.await who).released ++ (v.await who).waiting = v.released ++ v.waiting ++ [who]
    unfold await
    by_cases hup : v.runner.scheduler.idle = true
    · simp [if_pos hup, h.free hup]
    · simp [if_neg hup]

/-- All that happens is written down rightly. -/
theorem agrees_play (a : Action ι α σ τ ε) (incidents : List (Incident ι)) (h : Agrees v w) :
    Agrees (v.play a incidents) (v.tally a w incidents) := by
  induction incidents generalizing v w with
  | nil => exact h
  | cons i rest ih => exact ih (agrees_occur a h i)

theorem everyone_play (a : Action ι α σ τ ε) (incidents : List (Incident ι)) (h : Agrees v w) :
    (v.play a incidents).released ++ (v.play a incidents).waiting =
      v.released ++ v.waiting ++ incidents.filterMap Incident.waiter? := by
  induction incidents generalizing v w with
  | nil => exact (List.append_nil _).symm
  | cons i rest ih =>
    show ((v.occur a i).play a rest).released ++ ((v.occur a i).play a rest).waiting = _
    rw [ih (agrees_occur a h i), everyone_occur a h i, List.append_assoc, List.filterMap_cons]
    cases i.waiter? <;> rfl

/-- Whoever is let go finds that there is nothing left to do. -/
theorem clear_of_released (a : Action ι α σ τ ε) (h : Agrees v w) (i : Incident ι)
    (hne : (v.occur a i).released ≠ v.released) : (w.note v.runner i).IsClear := by
  rw [← (agrees_occur a h i).idle_iff]
  cases i with
  | schedule quiet x | cancel | tick t =>
    show (v.become _).runner.scheduler.idle = true
    rw [runner_become]
    exact released_become hne
  | wait who =>
    show (v.await who).runner.scheduler.idle = true
    have hne' : (v.await who).released ≠ v.released := hne
    unfold await at hne' ⊢
    by_cases hup : v.runner.scheduler.idle = true
    · rw [if_pos hup]
      exact hup
    · rw [if_neg hup] at hne'
      exact absurd rfl hne'

/-- **The flag `idle` is exact, and those who wait for it are let go just then.**  Whatever calls
and turns come one after another, whether runs fail or not, and whoever comes to wait in between:

1. the flag is up just if no timer is armed and all runs that were fired have retired;
2. the scheduler says so itself: a timer is armed or not, and its runs are those that were fired and
   have not retired;
3. whoever came to wait either waits still or was let go, in the order of coming;
4. nobody waits when there is nothing left to do;
5. nobody is let go, whatever happens next, unless there is nothing left to do then;
6. disarming the timer does not put the flag up while a run has not retired;
7. to let time pass until the flag is up is to let it pass until no timer is armed and there is no
   run. -/
theorem idle_iff_nothing_to_do (a : Action ι α σ τ ε) (state : σ)
    (incidents : List (Incident ι)) :
    let v := (initial state : Vigil ι α σ τ ε).play a incidents
    let w := (initial state : Vigil ι α σ τ ε).tally a .initial incidents
    (v.runner.scheduler.idle = true ↔ w.IsClear) ∧
      (v.runner.scheduler.pending = w.armed ∧
        w.retired + v.runner.scheduler.runs.length = w.fired) ∧
      v.released ++ v.waiting = incidents.filterMap Incident.waiter? ∧
      (w.IsClear → v.waiting = []) ∧
      (∀ i, (v.occur a i).released ≠ v.released → (w.note v.runner i).IsClear) ∧
      (w.fired ≠ w.retired → v.runner.cancel.scheduler.idle = false) ∧
      ∀ rounds, v.runner.waitIdle a rounds =
        Runner.pass a none (fun r => !(r.scheduler.pending || r.scheduler.running)) rounds
          v.runner := by
  intro v w
  have h : Agrees v w := agrees_play a incidents (agrees_initial state)
  refine ⟨h.idle_iff, ⟨h.armed.symm, h.unfinished⟩, ?_, ?_, ?_, ?_, ?_⟩
  · exact everyone_play a incidents (agrees_initial state)
  · intro hclear
    exact h.free (h.idle_iff.2 hclear)
  · intro i hne
    exact clear_of_released a h i hne
  · -- Disarming is one of the things that can happen, and it retires no run.
    intro hleft
    have hafter := (agrees_occur a h .cancel).idle_iff
    rw [Bool.eq_false_iff]
    intro hup
    have hclear := hafter.1 (by rw [occur, runner_become]; exact hup)
    exact hleft hclear.2
  · intro rounds
    apply Runner.pass_congr (P := Runner.IsSound) _ _ _ none rounds h.sound
    · intro r t hr
      exact hr.tick a t
    · intro r time hr
      exact hr.clock a time
    · intro r hr
      have hexact := hr.2
      unfold Debounce.IsExact at hexact
      rw [Bool.eq_iff_iff, hexact, Bool.not_eq_true', Bool.or_eq_false_iff]

/-- Runs of one pause each that fail. -/
def failing : Action Nat Unit Unit Unit String where
  start _ s := ⟨s, [], .paused 5 ()⟩
  resume _ s := ⟨s, [], .ended (.error (.problem (.general "") false))⟩
  warn _ := "failed"

/-- Someone comes to wait while a run is under way, and the timer is disarmed then; the run fails,
and retires. -/
def interrupted : List (Incident Nat) :=
  [.schedule (some 0) 1, .tick .gather, .tick .turn, .tick .turn, .wait 7, .cancel,
    .tick (.wait 5), .tick .gather, .tick .turn, .tick .turn, .tick .turn]

example : ((initial ()).play failing (interrupted.take 6)).waiting = [7] ∧
    ¬ ((initial ()).tally failing .initial (interrupted.take 6)).IsClear := by decide +kernel

example : ((initial ()).play failing interrupted).released = [7] ∧
    ((initial ()).tally failing .initial interrupted).IsClear := by decide +kernel

end Vigil

end QuasiGrammar
