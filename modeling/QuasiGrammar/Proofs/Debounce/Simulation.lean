import QuasiGrammar.Debounce.Records
import QuasiGrammar.Proofs.Debounce.Alarm

/-
  QuasiGrammar.Proofs.Debounce.Simulation
  ───────────────────────────────────────
  **A scheduler with its turns is a line with an alarm.**

  `Shows r l` says that the runner `r` looks like the line `l`.  The runner has
  one turn for each run that has not entered, one for each run that is to be
  retired, one to wake with if the line has a head and nobody is served, one for
  the work of the run that is served, and one for the alarm.  Each turn that is
  taken is then a step of the line (`shows_takeNext`), whatever its place in the
  queue and in the agenda, and works on the run that the line serves.
-/

namespace QuasiGrammar

variable {ι α σ τ ε : Type}

namespace Runner

/-! ## §1. Counting turns. -/

/-- How many turns there are of each kind, and that there are no others. -/
structure Counts (ready : List (Turn ι τ)) (agenda : Agenda (Turn ι τ))
    (enters wakes retires : Nat) : Prop where
  enters : ready.countP Turn.isEnter = enters
  wakes : ready.countP Turn.isWake = wakes
  retires : ready.countP Turn.isRetire = retires
  own : ∀ t ∈ ready, t.isOwn = true
  timed : ∀ s ∈ agenda.toList, s.item.isTimed = true

namespace Counts

variable {ready rest : List (Turn ι τ)} {agenda left : Agenda (Turn ι τ)} {e w n : Nat}
  {t : Turn ι τ} {s : Slot (Turn ι τ)}

theorem enqueue (h : Counts ready agenda e w n) (ht : t.isOwn = true) :
    Counts (ready ++ [t]) agenda (e + t.isEnter.toNat) (w + t.isWake.toNat)
      (n + t.isRetire.toNat) := by
  have hcount : ∀ p : Turn ι τ → Bool, (ready ++ [t]).countP p = ready.countP p + (p t).toNat := by
    intro p
    rw [List.countP_append]
    cases hp : p t <;> simp [hp]
  refine ⟨?_, ?_, ?_, ?_, h.timed⟩
  · rw [hcount, h.enters]
  · rw [hcount, h.wakes]
  · rw [hcount, h.retires]
  · intro t' ht'
    rcases List.mem_append.1 ht' with ht' | ht'
    · exact h.own t' ht'
    · rw [List.mem_singleton.1 ht']
      exact ht

theorem drop (h : Counts (t :: rest) agenda e w n) :
    ∃ e' w' n', e = e' + t.isEnter.toNat ∧ w = w' + t.isWake.toNat ∧ n = n' + t.isRetire.toNat ∧
      Counts rest agenda e' w' n' := by
  have hcount : ∀ p : Turn ι τ → Bool, (t :: rest).countP p = rest.countP p + (p t).toNat := by
    intro p
    rw [List.countP_cons]
    cases hp : p t <;> simp
  refine ⟨_, _, _, ?_, ?_, ?_, rfl, rfl, rfl, ?_, h.timed⟩
  · rw [← h.enters, hcount]
  · rw [← h.wakes, hcount]
  · rw [← h.retires, hcount]
  · exact fun t' ht' => h.own t' (List.mem_cons_of_mem _ ht')

theorem drop_other (h : Counts (t :: rest) agenda e w n) (he : t.isEnter = false)
    (hw : t.isWake = false) (hn : t.isRetire = false) : Counts rest agenda e w n := by
  obtain ⟨e', w', n', rfl, rfl, rfl, hrest⟩ := h.drop
  rw [he, hw, hn]
  exact hrest

theorem push (h : Counts ready agenda e w n) (hs : s.item.isTimed = true) :
    Counts ready (agenda.push s) e w n := by
  refine ⟨h.enters, h.wakes, h.retires, h.own, ?_⟩
  intro s' hs'
  rcases List.mem_cons.1 ((Agenda.perm_push s agenda).mem_iff.1 hs') with rfl | hs'
  · exact hs
  · exact h.timed s' hs'

theorem pop (h : Counts ready agenda e w n) (hpop : agenda.pop? = some (s, left)) :
    Counts ready left e w n :=
  ⟨h.enters, h.wakes, h.retires, h.own, fun s' hs' => h.timed s' (Rings.mem_of_pop? hpop hs')⟩

/-- What the agenda holds is counted nowhere. -/
theorem gather (h : Counts ready agenda e w n) (hpop : agenda.pop? = some (s, left)) :
    Counts (ready ++ [s.item]) left e w n := by
  have hs := h.timed s (Rings.head_mem_of_pop? hpop)
  have hleft := h.pop hpop
  rcases Turn.isTimed_cases hs with ⟨number, hitem⟩ | ⟨task, hitem⟩
  · rw [hitem]
    exact hleft.enqueue (t := .ring number) rfl
  · rw [hitem]
    exact hleft.enqueue (t := .rouse true task) rfl

end Counts

/-! ## §2. A runner that looks like a line. -/

/-- How many turns wake a run: one if the line has a head and nobody is served. -/
def wakesFor (current : Option ι) (waiting : List ι) : Nat :=
  if current.isNone && !waiting.isEmpty then 1 else 0

/-- Who joins a line that somebody is in already is not its head. -/
theorem wakesFor_append {current : Option ι} {waiting : List ι} (x : ι)
    (h : current ≠ none ∨ waiting ≠ []) :
    wakesFor current (waiting ++ [x]) = wakesFor current waiting := by
  unfold wakesFor
  cases current with
  | some c => rfl
  | none =>
    cases waiting with
    | nil => simp at h
    | cons y ys => rfl

/-- The runs by their phases, with a turn for each that needs one. -/
structure Stands (runs : List (Fired ι)) (ready : List (Turn ι τ)) (agenda : Agenda (Turn ι τ))
    (ended : List ι) (current : Option ι) (waiting queued : List ι) : Prop where
  runs : runs = Debounce.arranged ended current waiting queued
  counts : Counts ready agenda queued.length (wakesFor current waiting) ended.length

/-- A runner looks like a line. -/
structure Shows (exact : Prop) (r : Runner ι α σ τ ε) (l : Line ι σ τ ε) : Prop where
  clock : l.clock = r.clock
  begun : l.begun = r.begun
  state : l.state = r.state
  log : l.log = r.log
  rings : Rings exact r.clock r.ready r.agenda r.scheduler l.alarm
  work : Sole exact r.clock r.ready r.agenda Turn.work?
    (l.current.map fun p => ((p.due : Int), p.task))
  pause : exact → ∀ p, l.current = some p → l.clock ≤ p.due
  stands : ∃ ended waiting queued,
    Stands r.scheduler.runs r.ready r.agenda ended (l.current.map (·.inputs)) waiting queued ∧
      l.waiting = waiting ++ queued

variable {exact : Prop} {r : Runner ι α σ τ ε} {l : Line ι σ τ ε}

theorem shows_initial (exact : Prop) (state : σ) :
    Shows exact (Runner.initial state : Runner ι α σ τ ε) (Line.initial state) where
  clock := rfl
  begun := rfl
  state := rfl
  log := rfl
  rings := by
    refine ⟨?_, fun _ => rfl, by simp [Runner.initial, Debounce.initial]⟩
    rintro n (hn | ⟨s, hs, -⟩)
    · cases hn
    · cases hs
  work := ⟨rfl, rfl⟩
  pause := fun _ _ hp => nomatch hp
  stands := ⟨[], [], [], ⟨rfl, rfl, rfl, rfl, nofun, nofun⟩, rfl⟩

/-- Turns and phases may change behind what is seen. -/
theorem Shows.of_turns {ready : List (Turn ι τ)} {agenda : Agenda (Turn ι τ)} {d : Debounce ι}
    (h : Shows exact r l) (hrings : Rings exact r.clock ready agenda d l.alarm)
    (hwork : Sole exact r.clock ready agenda Turn.work?
      (l.current.map fun p => ((p.due : Int), p.task)))
    (hstands : ∃ ended waiting queued,
      Stands d.runs ready agenda ended (l.current.map (·.inputs)) waiting queued ∧
        l.waiting = waiting ++ queued) :
    Shows exact { r with ready := ready, agenda := agenda, scheduler := d } l where
  clock := h.clock
  begun := h.begun
  state := h.state
  log := h.log
  rings := hrings
  work := hwork
  pause := h.pause
  stands := hstands

/-- What is known of the turns that are ready. -/
theorem Shows.ready {ready : List (Turn ι τ)} (h : Shows exact r l) (hready : r.ready = ready) :
    Rings exact r.clock ready r.agenda r.scheduler l.alarm ∧
      Sole exact r.clock ready r.agenda Turn.work?
        (l.current.map fun p => ((p.due : Int), p.task)) ∧
      ∃ ended waiting queued,
        r.scheduler.runs = Debounce.arranged ended (l.current.map (·.inputs)) waiting queued ∧
          Counts ready r.agenda queued.length (wakesFor (l.current.map (·.inputs)) waiting)
            ended.length ∧
          l.waiting = waiting ++ queued := by
  subst hready
  obtain ⟨ended, waiting, queued, hstands, hwaiting⟩ := h.stands
  exact ⟨h.rings, h.work, ended, waiting, queued, hstands.runs, hstands.counts, hwaiting⟩

/-! ## §3. Calls. -/

theorem shows_schedule (h : Shows exact r l) (quiet : Option Int) (x : ι) :
    Shows exact (r.schedule quiet x) (l.schedule quiet x) := by
  obtain ⟨ended, waiting, queued, hstands, hwaiting⟩ := h.stands
  cases quiet with
  | none =>
    exact
      { clock := h.clock
        begun := h.begun
        state := h.state
        log := h.log
        rings := h.rings.schedule_never x
        work := h.work
        pause := h.pause
        stands := ⟨ended, waiting, queued, ⟨hstands.runs, hstands.counts⟩, hwaiting⟩ }
  | some ms =>
    exact
      { clock := h.clock
        begun := h.begun
        state := h.state
        log := h.log
        rings := by
          show Rings exact r.clock r.ready _ _ (some (some ((l.clock : Int) + ms), x))
          rw [h.clock]
          exact h.rings.schedule (r.clock + ms) x
        work := h.work.push_other rfl
        pause := h.pause
        stands := ⟨ended, waiting, queued, ⟨hstands.runs, hstands.counts.push rfl⟩, hwaiting⟩ }

theorem shows_cancel (h : Shows exact r l) : Shows exact r.cancel l.cancel := by
  obtain ⟨ended, waiting, queued, hstands, hwaiting⟩ := h.stands
  exact
    { clock := h.clock
      begun := h.begun
      state := h.state
      log := h.log
      rings := h.rings.disarmed (Debounce.timer_updateIdle _) (Debounce.armings_updateIdle _)
      work := h.work
      pause := h.pause
      stands := ⟨ended, waiting, queued, ⟨(Debounce.runs_updateIdle _).trans hstands.runs,
        hstands.counts⟩, hwaiting⟩ }

/-- What is seen besides is seen by both. -/
theorem shows_see (h : Shows exact r l) (events : List ε) :
    Shows exact (r.see events) (l.see events) where
  clock := h.clock
  begun := h.begun
  state := h.state
  log := by
    show l.log ++ _ = r.log ++ _
    rw [h.log, h.clock]
  rings := h.rings
  work := h.work
  pause := h.pause
  stands := h.stands

/-- The state that runs work on may change in between. -/
theorem shows_state (h : Shows exact r l) (state : σ) :
    Shows exact { r with state := state } { l with state := state } where
  clock := h.clock
  begun := h.begun
  state := rfl
  log := h.log
  rings := h.rings
  work := h.work
  pause := h.pause
  stands := h.stands

/-! ## §4. The agenda. -/

theorem shows_collect (n : Nat) (h : Shows exact r l) : Shows exact (collect n r) l := by
  apply collect_induction (P := fun r => Shows exact r l) _ n h
  intro r s left hpop hdue h
  obtain ⟨ended, waiting, queued, hstands, hwaiting⟩ := h.stands
  exact h.of_turns (h.rings.gather hpop hdue) (h.work.gather hpop hdue)
    ⟨ended, waiting, queued, ⟨hstands.runs, hstands.counts.gather hpop⟩, hwaiting⟩

/-- A void turn rings, and for no armed timer. -/
theorem exists_of_isVoid {t : Turn ι τ} (h : r.isVoid t = true) :
    ∃ m, t = .ring m ∧ r.scheduler.isArmed m = false := by
  unfold isVoid at h
  split at h
  · next m => exact ⟨m, rfl, by simpa using h⟩
  · cases h

theorem shows_dropVoid (n : Nat) (h : Shows exact r l) : Shows exact (dropVoid n r) l := by
  apply dropVoid_induction (P := fun r => Shows exact r l) _ n h
  intro r s left hpop hvoid h
  obtain ⟨m, hm, harm⟩ := exists_of_isVoid hvoid
  obtain ⟨ended, waiting, queued, hstands, hwaiting⟩ := h.stands
  apply h.of_turns
  · apply h.rings.pop hpop
    intro m' hm'
    cases hm.symm.trans hm'
    exact harm
  · apply h.work.pop_other hpop
    rw [hm]
    rfl
  · exact ⟨ended, waiting, queued, ⟨hstands.runs, hstands.counts.pop hpop⟩, hwaiting⟩

/-! ## §5. Turns. -/

/-- What a runner looks like before a stretch of work is taken in: someone is served, and no turn
goes on with the work. -/
structure Serves (exact : Prop) (r : Runner ι α σ τ ε) (l : Line ι σ τ ε) (inputs : ι) : Prop where
  clock : l.clock = r.clock
  begun : l.begun = r.begun
  log : l.log = r.log
  rings : Rings exact r.clock r.ready r.agenda r.scheduler l.alarm
  work : Sole exact r.clock r.ready r.agenda Turn.work? none
  stands : ∃ ended waiting queued,
    Stands r.scheduler.runs r.ready r.agenda ended (some inputs) waiting queued ∧
      l.waiting = waiting ++ queued

theorem conclude_eq (r : Runner ι α σ τ ε) :
    r.conclude =
      { r with
        scheduler := r.scheduler.finish
        ready := r.ready ++ (if r.scheduler.finish.hasWaiting then [.wake] else []) ++ [.retire] } := by
  unfold conclude
  by_cases hw : r.scheduler.finish.hasWaiting = true
  · simp only [if_pos hw]
    rfl
  · simp only [if_neg hw, List.append_nil]
    rfl

/-- The run that was served is to be retired, and the head of the line is woken. -/
theorem stands_conclude {ended waiting queued : List ι} {inputs : ι}
    (h : Stands r.scheduler.runs r.ready r.agenda ended (some inputs) waiting queued) :
    Stands r.conclude.scheduler.runs r.conclude.ready r.conclude.agenda (ended ++ [inputs]) none
      waiting queued := by
  have hfinish := Debounce.finish_arranged h.runs
  have hheld : r.scheduler.finish.hasWaiting = !waiting.isEmpty :=
    Debounce.hasWaiting_arranged (by rw [hfinish])
  rw [conclude_eq, hheld]
  refine ⟨by rw [hfinish], ?_⟩
  rw [List.length_append]
  cases waiting with
  | nil =>
    have hretire := h.counts.enqueue (t := .retire) rfl
    simp only [List.isEmpty_nil, Bool.not_true, Bool.false_eq_true, if_false, List.append_nil]
    exact hretire
  | cons x rest =>
    have hwake := h.counts.enqueue (t := .wake) rfl
    exact hwake.enqueue (t := .retire) rfl

theorem rings_conclude {alarm : Option (Option Int × ι)}
    (h : Rings exact r.clock r.ready r.agenda r.scheduler alarm) :
    Rings exact r.conclude.clock r.conclude.ready r.conclude.agenda r.conclude.scheduler alarm := by
  have hd : Rings exact r.clock r.ready r.agenda r.scheduler.finish alarm := h.of_timer rfl rfl
  rw [conclude_eq]
  refine Rings.enqueue ?_ nofun
  by_cases hw : r.scheduler.finish.hasWaiting = true
  · rw [if_pos hw]
    exact hd.enqueue nofun
  · rw [if_neg hw, List.append_nil]
    exact hd

theorem work_conclude (h : Sole exact r.clock r.ready r.agenda Turn.work? none) :
    Sole exact r.conclude.clock r.conclude.ready r.conclude.agenda Turn.work? none := by
  rw [conclude_eq]
  refine Sole.enqueue_other ?_ rfl
  by_cases hw : r.scheduler.finish.hasWaiting = true
  · rw [if_pos hw]
    exact h.enqueue_other rfl
  · rw [if_neg hw, List.append_nil]
    exact h

theorem Serves.see {inputs : ι} (h : Serves exact r l inputs) (events : List ε) :
    Serves exact (r.see events) (l.see events) inputs where
  clock := h.clock
  begun := h.begun
  log := by
    show l.log ++ _ = r.log ++ _
    rw [h.log, h.clock]
  rings := h.rings
  work := h.work
  stands := h.stands

/-- The run pauses, with a turn to go on with. -/
theorem shows_plan {inputs : ι} (h : Serves exact r l inputs) (hstate : l.state = r.state)
    (ms : Nat) (task : τ) :
    Shows exact (r.plan ms (.rouse true task))
      { l with current := some ⟨inputs, l.clock + ms, task⟩ } := by
  obtain ⟨ended, waiting, queued, hstands, hwaiting⟩ := h.stands
  have hwork : Sole exact r.clock r.ready (r.agenda.push ⟨r.clock + ms, .rouse true task⟩)
      Turn.work? (some ((((l.clock + ms : Nat) : Int)), task)) := by
    rw [h.clock, Int.natCast_add]
    exact h.work.push_self rfl
  exact
    { clock := h.clock
      begun := h.begun
      state := hstate
      log := h.log
      rings := h.rings.push nofun
      work := hwork
      pause := by
        rintro - p ⟨⟩
        exact Nat.le_add_right _ _
      stands := ⟨ended, waiting, queued, ⟨hstands.runs, hstands.counts.push rfl⟩, hwaiting⟩ }

/-- The run leaves, and the next one can be served. -/
theorem shows_conclude {inputs : ι} (h : Serves exact r l inputs) (hstate : l.state = r.state) :
    Shows exact r.conclude { l with current := none } := by
  obtain ⟨ended, waiting, queued, hstands, hwaiting⟩ := h.stands
  have hrings := rings_conclude h.rings
  have hwork := work_conclude h.work
  have hstands' := stands_conclude hstands
  have hsame : r.conclude.clock = r.clock ∧ r.conclude.begun = r.begun ∧
      r.conclude.state = r.state ∧ r.conclude.log = r.log := by
    rw [conclude_eq]
    exact ⟨rfl, rfl, rfl, rfl⟩
  exact
    { clock := h.clock.trans hsame.1.symm
      begun := h.begun.trans hsame.2.1.symm
      state := hstate.trans hsame.2.2.1.symm
      log := h.log.trans hsame.2.2.2.symm
      rings := hrings
      work := hwork
      pause := fun _ _ hp => nomatch hp
      stands := ⟨ended ++ [inputs], waiting, queued, hstands', hwaiting⟩ }

/-- A stretch of work is taken in. -/
theorem shows_absorb (a : Action ι α σ τ ε) {inputs : ι} (s : Stretch α σ τ ε)
    (h : Serves exact r l inputs) : Shows exact (absorb a true s r) (l.serve a inputs s) := by
  have hmoved : Serves exact ({ r with state := s.state } : Runner ι α σ τ ε)
      { l with state := s.state } inputs :=
    ⟨h.clock, h.begun, h.log, h.rings, h.work, h.stands⟩
  have hseen := hmoved.see s.events
  unfold absorb Line.serve
  cases hstop : s.stop with
  | paused ms task => exact shows_plan hseen rfl ms task
  | ended result => exact shows_conclude (hseen.see (warningOf a result)) rfl

theorem firing?_eq_none (h : ∀ n rest, r.ready ≠ .ring n :: rest) : r.firing? = none := by
  unfold firing?
  split
  · next n rest hready => exact absurd hready (h n rest)
  · rfl

/-- A turn that rings makes the timer fire, or does nothing. -/
theorem shows_ring (a : Action ι α σ τ ε) {number : Nat} {rest : List (Turn ι τ)}
    (h : Shows exact r l) (hready : r.ready = .ring number :: rest) :
    ∃ l', Line.Step exact a l l' ∧ Line.Works a l (r.piece? a) l' ∧
      l'.fired = l.fired ++ r.firing?.toList ∧
        Shows exact (take a { r with ready := rest } (.ring number)) l' := by
  obtain ⟨hrings, hwork, ended, waiting, queued, hruns, hcounts, hwaiting⟩ := h.ready hready
  have hleft := hcounts.drop_other rfl rfl rfl
  have hnone : r.piece? a = none := by
    unfold piece?
    simp only [hready]
  rw [hnone]
  unfold take
  by_cases harmed : r.scheduler.isArmed number = true
  · -- The alarm rings: its inputs have no phase yet, and a turn to enter with.
    obtain ⟨t, due, htimer, halarm, hdue⟩ := hrings.rung harmed
    have hfire : r.scheduler.fire = { r.scheduler with
        timer := none
        runs := Debounce.arranged ended (l.current.map (·.inputs)) waiting
          (queued ++ [t.inputs]) } := by
      unfold Debounce.fire
      rw [htimer, hruns]
      simp only [Debounce.arranged_fire]
    refine ⟨l.fire t.inputs, .fire halarm (by rw [h.clock]; exact hdue), .idle rfl rfl rfl, ?_, ?_⟩
    · unfold firing?
      rw [hready]
      simp only [if_pos harmed, htimer, Option.map_some, Option.toList_some, ← h.clock]
      rfl
    · simp only [if_pos harmed, hfire]
      have hdisarmed : Rings exact r.clock (.ring number :: rest) r.agenda
          { r.scheduler with timer := none } none := hrings.disarmed rfl rfl
      have hoff := hdisarmed.drop fun _ _ => rfl
      exact
        { clock := h.clock
          begun := h.begun
          state := h.state
          log := h.log
          rings := Rings.enqueue (t := .enter) (hoff.of_timer rfl rfl) nofun
          work := (hwork.drop_other rfl).enqueue_other rfl
          pause := h.pause
          stands := by
            refine ⟨ended, waiting, queued ++ [t.inputs], ⟨rfl, ?_⟩, ?_⟩
            · rw [List.length_append]
              exact hleft.enqueue (t := .enter) rfl
            · show l.waiting ++ [t.inputs] = _
              rw [hwaiting, List.append_assoc] }
  · -- The turn of a timer that was armed earlier.
    refine ⟨l, .stay l, .idle rfl rfl rfl, ?_, ?_⟩
    · unfold firing?
      rw [hready]
      simp only [if_neg harmed, Option.toList_none, List.append_nil]
    · simp only [if_neg harmed]
      refine h.of_turns (hrings.drop ?_) (hwork.drop_other rfl)
        ⟨ended, waiting, queued, ⟨hruns, hleft⟩, hwaiting⟩
      intro n hn
      cases hn
      simpa using harmed

/-- A run begins: it was the head of the line, and nobody is served. -/
theorem shows_begin (a : Action ι α σ τ ε) {x : ι} {ended waiting queued rest : List ι}
    {ready : List (Turn ι τ)} (h : Shows exact r l) (hfree : l.current = none)
    (hline : l.waiting = x :: rest) (hrest : rest = waiting ++ queued)
    (hrings : Rings exact r.clock ready r.agenda r.scheduler l.alarm)
    (hwork : Sole exact r.clock ready r.agenda Turn.work? none)
    (hcounts : Counts ready r.agenda queued.length (wakesFor (some x) waiting) ended.length) :
    Line.Step exact a l (l.begin a x rest) ∧
      Shows exact (begin a { r with ready := ready }
        (some x, { r.scheduler with runs := Debounce.arranged ended (some x) waiting queued }))
        (l.begin a x rest) := by
  refine ⟨.begin hfree hline, ?_⟩
  unfold begin Line.begin
  have hstate := h.state
  rw [hstate]
  refine shows_absorb a _ ?_
  exact
    { clock := h.clock
      begun := by
        show l.begun ++ [x] = r.begun ++ [x]
        rw [h.begun]
      log := h.log
      rings := hrings.of_timer rfl rfl
      work := hwork
      stands := ⟨ended, waiting, queued, ⟨rfl, hcounts⟩, hrest⟩ }

/-- A run enters: it begins, or waits behind the others. -/
theorem shows_enter (a : Action ι α σ τ ε) {rest : List (Turn ι τ)} (h : Shows exact r l)
    (hready : r.ready = .enter :: rest) :
    ∃ l', Line.Step exact a l l' ∧ Line.Works a l (r.piece? a) l' ∧ l'.fired = l.fired ∧
      Shows exact (take a { r with ready := rest } .enter) l' := by
  obtain ⟨hrings, hwork, ended, waiting, queued, hruns, hcounts, hwaiting⟩ := h.ready hready
  have hrings := hrings.drop (fun _ hn => nomatch hn)
  have hwork := hwork.drop_other rfl
  obtain ⟨e, w, n, he, hw, hn, hleft⟩ := hcounts.drop
  -- The turn stands for a run that has not entered.
  cases queued with
  | nil => cases he
  | cons x queued =>
    have he : queued.length = e := Nat.succ.inj he
    have hw : wakesFor (l.current.map (·.inputs)) waiting = w := hw
    have hn : ended.length = n := hn
    subst he hw hn
    unfold take
    -- The lock is fair: whoever finds it held, or others in front, goes to the end of the line.
    by_cases hheld : l.current.map (·.inputs) ≠ none ∨ waiting ≠ []
    · have henter := Debounce.enter_of_held hruns hheld
      rw [show ({ r with ready := rest } : Runner ι α σ τ ε).scheduler = r.scheduler from rfl, henter]
      refine ⟨l, .stay l, ?_, rfl, ?_⟩
      · unfold piece?
        simp only [hready, henter, Option.map_none]
        exact .idle rfl rfl rfl
      rw [← wakesFor_append x hheld] at hleft
      refine h.of_turns (hrings.of_timer rfl rfl) hwork
        ⟨ended, waiting ++ [x], queued, ⟨rfl, hleft⟩, ?_⟩
      rw [hwaiting]
      simp
    · have hcur : l.current.map (·.inputs) = none :=
        Classical.byContradiction fun hc => hheld (.inl hc)
      have hnil : waiting = [] := Classical.byContradiction fun hw => hheld (.inr hw)
      subst hnil
      rw [hcur] at hruns
      have hfree : l.current = none := Option.map_eq_none_iff.1 hcur
      rw [hfree] at hwork hleft
      have henter := Debounce.enter_of_free hruns
      rw [show ({ r with ready := rest } : Runner ι α σ τ ε).scheduler = r.scheduler from rfl, henter]
      obtain ⟨hstep, hshows⟩ := shows_begin a h hfree hwaiting (List.nil_append queued).symm
        hrings hwork hleft
      refine ⟨_, hstep, ?_, by simp [Line.begin], hshows⟩
      unfold piece?
      simp only [hready, henter, Option.map_some, ← h.state]
      exact .begins x queued hfree

/-- The head of the line is woken: nobody is served, so it begins. -/
theorem shows_wake (a : Action ι α σ τ ε) {rest : List (Turn ι τ)} (h : Shows exact r l)
    (hready : r.ready = .wake :: rest) :
    ∃ l', Line.Step exact a l l' ∧ Line.Works a l (r.piece? a) l' ∧ l'.fired = l.fired ∧
      Shows exact (take a { r with ready := rest } .wake) l' := by
  obtain ⟨hrings, hwork, ended, waiting, queued, hruns, hcounts, hwaiting⟩ := h.ready hready
  have hrings := hrings.drop (fun _ hn => nomatch hn)
  have hwork := hwork.drop_other rfl
  obtain ⟨e, w, n, he, hw, hn, hleft⟩ := hcounts.drop
  -- There is a turn to wake with only while nobody is served and somebody waits.
  have hw : wakesFor (l.current.map (·.inputs)) waiting = w + 1 := hw
  unfold wakesFor at hw
  cases hcur : l.current with
  | some p =>
    rw [hcur] at hw
    cases hw
  | none =>
    cases waiting with
    | nil =>
      rw [hcur] at hw
      cases hw
    | cons x waiting =>
      rw [hcur] at hw hruns hwork
      have hw : 0 = w := Nat.succ.inj hw
      have he : queued.length = e := he
      have hn : ended.length = n := hn
      subst he hw hn
      unfold take
      have hwake := Debounce.wake_arranged hruns
      rw [show ({ r with ready := rest } : Runner ι α σ τ ε).scheduler = r.scheduler from rfl, hwake]
      obtain ⟨hstep, hshows⟩ := shows_begin a h hcur hwaiting rfl hrings hwork hleft
      refine ⟨_, hstep, ?_, by simp [Line.begin], hshows⟩
      unfold piece?
      simp only [hready, hwake, Option.map_some, ← h.state]
      exact .begins x _ hcur

/-- A pause is over, and the work is ready to go on. -/
theorem shows_rouse (a : Action ι α σ τ ε) {isRun : Bool} {task : τ} {rest : List (Turn ι τ)}
    (h : Shows exact r l) (hready : r.ready = .rouse isRun task :: rest) :
    Shows exact (take a { r with ready := rest } (.rouse isRun task)) l := by
  obtain ⟨hrings, hwork, ended, waiting, queued, hruns, hcounts, hwaiting⟩ := h.ready hready
  cases isRun with
  | false => cases hcounts.own _ List.mem_cons_self
  | true =>
    have hwork' : Sole exact r.clock (rest ++ [.resume true task]) r.agenda Turn.work?
        (l.current.map fun p => ((p.due : Int), p.task)) := by
      obtain ⟨due, hcur, hdue, hnone⟩ := hwork.drop_self rfl
      rw [hcur]
      exact hnone.enqueue_self rfl hdue
    have hrings' := (hrings.drop (fun _ hn => nomatch hn)).enqueue (t := .resume true task) nofun
    have hleft := (hcounts.drop_other rfl rfl rfl).enqueue (t := .resume true task) rfl
    exact h.of_turns hrings' hwork' ⟨ended, waiting, queued, ⟨hruns, hleft⟩, hwaiting⟩

/-- The one who is served goes on. -/
theorem shows_resume (a : Action ι α σ τ ε) {isRun : Bool} {task : τ} {rest : List (Turn ι τ)}
    (h : Shows exact r l) (hready : r.ready = .resume isRun task :: rest) :
    ∃ l', Line.Step exact a l l' ∧ Line.Works a l (r.piece? a) l' ∧ l'.fired = l.fired ∧
      Shows exact (take a { r with ready := rest } (.resume isRun task)) l' := by
  obtain ⟨hrings, hwork, ended, waiting, queued, hruns, hcounts, hwaiting⟩ := h.ready hready
  cases isRun with
  | false => cases hcounts.own _ List.mem_cons_self
  | true =>
    obtain ⟨due, hcur, hdue, hnone⟩ := hwork.drop_self rfl
    obtain ⟨p, hp, hpe⟩ := Option.map_eq_some_iff.1 hcur
    obtain ⟨rfl, rfl⟩ := Prod.mk.inj hpe
    -- The turn is due by now, and the clock cannot have passed it.
    have hnow : exact → p.due = l.clock := by
      intro he
      have hle := hdue he
      have hge := h.pause he p hp
      rw [h.clock] at hge ⊢
      omega
    refine ⟨l.resume a p, .resume hp hnow, ?_, by simp [Line.resume], ?_⟩
    · unfold piece?
      simp only [hready, ← h.state]
      exact .goesOn hp
    unfold take Line.resume
    rw [h.state]
    refine shows_absorb a _ ?_
    have hleft := hcounts.drop_other rfl rfl rfl
    rw [hp] at hruns hleft
    exact
      { clock := h.clock
        begun := h.begun
        log := h.log
        rings := hrings.drop (fun _ hn => nomatch hn)
        work := hnone
        stands := ⟨ended, waiting, queued, ⟨hruns, hleft⟩, hwaiting⟩ }

/-- A run that has come to its end is forgotten. -/
theorem shows_retire (a : Action ι α σ τ ε) {rest : List (Turn ι τ)} (h : Shows exact r l)
    (hready : r.ready = .retire :: rest) :
    Shows exact (take a { r with ready := rest } .retire) l := by
  obtain ⟨hrings, hwork, ended, waiting, queued, hruns, hcounts, hwaiting⟩ := h.ready hready
  obtain ⟨e, w, n, he, hw, hn, hleft⟩ := hcounts.drop
  have he : queued.length = e := he
  have hw : wakesFor (l.current.map (·.inputs)) waiting = w := hw
  have hn : ended.length = n + 1 := hn
  -- The turn stands for a run that has come to its end.
  cases ended with
  | nil => cases hn
  | cons x ended =>
    have hn : ended.length = n := Nat.succ.inj hn
    subst he hw hn
    have hrings' : Rings exact r.clock rest r.agenda r.scheduler.reap l.alarm :=
      (hrings.drop (fun _ hn => nomatch hn)).of_timer (Debounce.timer_updateIdle _)
        (Debounce.armings_updateIdle _)
    exact h.of_turns hrings' (hwork.drop_other rfl)
      ⟨ended, waiting, queued, ⟨Debounce.reap_arranged hruns, hleft⟩, hwaiting⟩

/-- **A turn of the runner is a step of the line**, and works on the run that the line serves, if it
works on a run.  It makes the alarm ring just if it makes the timer fire. -/
theorem shows_takeNext (a : Action ι α σ τ ε) (h : Shows exact r l) :
    ∃ l', Line.Step exact a l l' ∧ Line.Works a l (r.piece? a) l' ∧
      l'.fired = l.fired ++ r.firing?.toList ∧ Shows exact (r.takeNext a) l' := by
  have hquiet : (∀ n rest, r.ready ≠ .ring n :: rest) → ∀ {l' : Line ι σ τ ε}, l'.fired = l.fired →
      l'.fired = l.fired ++ r.firing?.toList := by
    intro hne l' hf
    rw [firing?_eq_none hne, hf, Option.toList_none, List.append_nil]
  have hidle : r.piece? a = none → Line.Works a l (r.piece? a) l := by
    intro hnone
    rw [hnone]
    exact .idle rfl rfl rfl
  unfold takeNext
  cases hready : r.ready with
  | nil => exact ⟨l, .stay l, hidle (by simp [piece?, hready]), hquiet (by simp [hready]) rfl, h⟩
  | cons t rest =>
    cases t with
    | ring number => exact shows_ring a h hready
    | enter =>
      obtain ⟨l', hstep, hworks, hf, hshows⟩ := shows_enter a h hready
      exact ⟨l', hstep, hworks, hquiet (by simp [hready]) hf, hshows⟩
    | wake =>
      obtain ⟨l', hstep, hworks, hf, hshows⟩ := shows_wake a h hready
      exact ⟨l', hstep, hworks, hquiet (by simp [hready]) hf, hshows⟩
    | rouse isRun task =>
      exact ⟨l, .stay l, hidle (by simp [piece?, hready]), hquiet (by simp [hready]) rfl,
        shows_rouse a h hready⟩
    | resume isRun task =>
      obtain ⟨l', hstep, hworks, hf, hshows⟩ := shows_resume a h hready
      exact ⟨l', hstep, hworks, hquiet (by simp [hready]) hf, hshows⟩
    | retire =>
      exact ⟨l, .stay l, hidle (by simp [piece?, hready]), hquiet (by simp [hready]) rfl,
        shows_retire a h hready⟩
    | beside inputs =>
      obtain ⟨ended, waiting, queued, hstands, -⟩ := h.stands
      have hown := hstands.counts.own (.beside inputs) (by rw [hready]; exact List.mem_cons_self)
      cases hown

/-! ## §6. The clock. -/

theorem shows_gather (h : Shows exact r l) : Shows exact r.gather l := shows_collect _ h

/-- Nothing is ready when all is calm. -/
theorem ready_of_isCalm {time : Nat} (hcalm : r.isCalm time = true) : r.ready = [] := by
  unfold isCalm at hcalm
  rw [Bool.and_eq_true] at hcalm
  exact List.isEmpty_iff.1 hcalm.1

/-- A turn in the agenda that is not void is due no earlier than a time before which all is
calm. -/
theorem le_due_of_isCalm {time : Nat} {s : Slot (Turn ι τ)} (hcalm : r.isCalm time = true)
    (hs : s ∈ r.agenda.toList) (hlive : r.isVoid s.item = false) : (time : Int) ≤ s.due := by
  unfold isCalm at hcalm
  rw [Bool.and_eq_true, List.all_eq_true] at hcalm
  have := hcalm.2 s hs
  rw [hlive] at this
  simpa using this

/-- A turn that is not ready is in the agenda. -/
theorem slot_of_sole {β : Type} {kind : Turn ι τ → Option β} {due : Int} {b : β}
    (h : Sole exact r.clock [] r.agenda kind (some (due, b))) :
    ∃ s ∈ r.agenda.toList, s.due = due ∧ kind s.item = some b := by
  rcases h with ⟨hbad, -⟩ | ⟨-, hplanned⟩
  · cases hbad
  · have hmem : (due, b) ∈ planned kind r.agenda := by
      rw [hplanned]
      exact List.mem_singleton_self _
    unfold planned at hmem
    obtain ⟨s, hs, hsome⟩ := List.mem_filterMap.1 hmem
    obtain ⟨b', hb', he⟩ := Option.map_eq_some_iff.1 hsome
    obtain ⟨rfl, rfl⟩ := Prod.mk.inj he
    exact ⟨s, hs, rfl, hb'⟩

/-- While all is calm the pause of the one who is served is not over. -/
theorem le_pause_of_isCalm {time : Nat} {p : Paused ι τ} (h : Shows exact r l)
    (hcalm : r.isCalm time = true) (hp : l.current = some p) : time ≤ p.due := by
  have hwork := h.work
  rw [hp, ready_of_isCalm hcalm] at hwork
  obtain ⟨s, hs, hdue, hitem⟩ := slot_of_sole hwork
  -- Only turns that ring can be void.
  have hlive : r.isVoid s.item = false := by
    unfold isVoid
    split
    · next m hm =>
      rw [hm] at hitem
      cases hitem
    · rfl
  have := le_due_of_isCalm hcalm hs hlive
  omega

/-- While all is calm the alarm does not ring. -/
theorem le_alarm_of_isCalm {time : Nat} {due : Int} {inputs : ι} (h : Shows exact r l)
    (hcalm : r.isCalm time = true) (hal : l.alarm = some (some due, inputs)) :
    (time : Int) ≤ due := by
  cases htimer : r.scheduler.timer with
  | none =>
    rw [h.rings.silent htimer] at hal
    cases hal
  | some t =>
    obtain ⟨-, due?, hal', hsole⟩ := h.rings.armed t htimer
    cases hal.symm.trans hal'
    rw [ready_of_isCalm hcalm] at hsole
    obtain ⟨s, hs, hdue, hitem⟩ := slot_of_sole hsole
    -- The turn rings for the timer that is armed, so it is not void.
    have hlive : r.isVoid s.item = false := by
      unfold isVoid
      split
      · next m hm =>
        rw [hm] at hitem
        have hnum : m = t.number := by
          by_cases hmt : m = t.number
          · exact hmt
          · rw [Rings.bell?_eq_none (by rintro _ ⟨⟩; exact hmt)] at hitem
            cases hitem
        unfold Debounce.isArmed
        rw [htimer, hnum]
        simp
      · rfl
    have := le_due_of_isCalm hcalm hs hlive
    omega

/-- While nothing is ready and nobody is served, nobody waits. -/
theorem waiting_of_ready (h : Shows exact r l) (hready : r.ready = []) (hfree : l.current = none) :
    l.waiting = [] := by
  obtain ⟨-, -, ended, waiting, queued, -, hcounts, hwaiting⟩ := h.ready hready
  -- Each of those that wait would need a turn: one to be woken with, or one to enter with.
  have henters := hcounts.enters
  have hwakes := hcounts.wakes
  rw [hfree] at hwakes
  rw [hwaiting]
  cases waiting with
  | cons x rest => cases hwakes
  | nil =>
    cases queued with
    | cons x rest => cases henters
    | nil => rfl

/-- The clock moves, and passes nothing that is to be done. -/
theorem shows_pass (a : Action ι α σ τ ε) {time : Nat} (h : Shows exact r l)
    (hle : exact → r.clock ≤ time) (hcalm : exact → r.isCalm time = true) :
    Line.Step exact a l { l with clock := time } ∧
      Shows exact { r with clock := time } { l with clock := time } := by
  have hpause : exact → ∀ p, l.current = some p → time ≤ p.due :=
    fun he p hp => le_pause_of_isCalm h (hcalm he) hp
  constructor
  · apply Line.Step.pass
    · rw [h.clock]
      exact hle
    · exact fun he hfree => waiting_of_ready h (ready_of_isCalm (hcalm he)) hfree
    · exact hpause
    · exact fun he due inputs hal => le_alarm_of_isCalm h (hcalm he) hal
  · obtain ⟨ended, waiting, queued, hstands, hwaiting⟩ := h.stands
    exact
      { clock := rfl
        begun := h.begun
        state := h.state
        log := h.log
        rings := h.rings.later hle
        work := h.work.later hle
        pause := hpause
        stands := ⟨ended, waiting, queued, ⟨hstands.runs, hstands.counts⟩, hwaiting⟩ }

/-- **A tick is a step of the line.** -/
theorem shows_tick (a : Action ι α σ τ ε) (h : Shows exact r l) (t : Tick) :
    ∃ l', Line.Step exact a l l' ∧ l'.fired = l.fired ++ (r.firedBy (.tick t)).toList ∧
      Shows exact (r.tick a t) l' := by
  cases t with
  | tidy => exact ⟨l, .stay l, (List.append_nil _).symm, shows_dropVoid _ h⟩
  | gather => exact ⟨l, .stay l, (List.append_nil _).symm, shows_gather h⟩
  | turn =>
    obtain ⟨l', hstep, -, hf, hshows⟩ := shows_takeNext a h
    exact ⟨l', hstep, hf, hshows⟩
  | wait ms =>
    by_cases hcalm : r.isCalm (r.clock + ms) = true
    · obtain ⟨hstep, hshows⟩ :=
        shows_pass a h (fun _ => Nat.le_add_right _ _) fun _ => hcalm
      refine ⟨_, hstep, (List.append_nil _).symm, ?_⟩
      rw [tick_wait_of_calm a hcalm]
      exact hshows
    · refine ⟨l, .stay l, (List.append_nil _).symm, ?_⟩
      rw [tick_wait_of_not_calm a hcalm]
      exact h

/-! ## §7. What can be seen of the runner. -/

/-- When no run is active, nobody is served, and nobody waits. -/
theorem line_of_not_running (h : Shows exact r l) (hr : r.scheduler.running = false) :
    l.current = none ∧ l.waiting = [] := by
  obtain ⟨ended, waiting, queued, hstands, hwaiting⟩ := h.stands
  unfold Debounce.running at hr
  have hruns : r.scheduler.runs = [] := by simpa using hr
  rw [hstands.runs] at hruns
  obtain ⟨-, hcur, rfl, rfl⟩ := Debounce.arranged_eq_nil.1 hruns
  exact ⟨Option.map_eq_none_iff.1 hcur, hwaiting⟩

/-! ## §8. What no step destroys. -/

section Kept

variable {a : Action ι α σ τ ε} {P : Line ι σ τ ε → Prop}

/-- A property of lines that no step destroys outlasts a tick. -/
theorem kept_tick (hstep : ∀ {l l'}, P l → Line.Step exact a l l' → P l')
    (h : ∃ l, Shows exact r l ∧ P l) (t : Tick) : ∃ l, Shows exact (r.tick a t) l ∧ P l := by
  obtain ⟨l, hshows, hP⟩ := h
  obtain ⟨l', hs, -, hshows'⟩ := shows_tick a hshows t
  exact ⟨l', hshows', hstep hP hs⟩

/-- Without regard to time the clock may go anywhere. -/
theorem kept_clock (hstep : ∀ {l l'}, P l → Line.Step False a l l' → P l')
    (h : ∃ l, Shows False r l ∧ P l) (time : Nat) :
    ∃ l, Shows False ({ r with clock := time } : Runner ι α σ τ ε) l ∧ P l := by
  obtain ⟨l, hshows, hP⟩ := h
  obtain ⟨hs, hshows'⟩ : Line.Step False a l { l with clock := time } ∧
      Shows False { r with clock := time } { l with clock := time } :=
    shows_pass a hshows (fun hf => hf.elim) fun hf => hf.elim
  exact ⟨_, hshows', hstep hP hs⟩

/-- It outlasts rounds, as many as may be taken. -/
theorem kept_pass (hstep : ∀ {l l'}, P l → Line.Step False a l l' → P l')
    (h : ∃ l, Shows False r l ∧ P l) (limit : Option Nat) (condition : Runner ι α σ τ ε → Bool)
    (n : Nat) : ∃ l, Shows False (pass a limit condition n r) l ∧ P l :=
  pass_induction (P := fun r => ∃ l, Shows False r l ∧ P l) (fun _ t hr => kept_tick hstep hr t)
    (fun _ time hr => kept_clock hstep hr time) limit condition n h

/-- It outlasts the passing of time. -/
theorem kept_advance (hstep : ∀ {l l'}, P l → Line.Step False a l l' → P l')
    (h : ∃ l, Shows False r l ∧ P l) (rounds ms : Nat) :
    ∃ l, Shows False (r.advance a rounds ms) l ∧ P l :=
  kept_clock hstep (kept_pass hstep h _ _ _) _

theorem kept_waitIdle (hstep : ∀ {l l'}, P l → Line.Step False a l l' → P l')
    (h : ∃ l, Shows False r l ∧ P l) (rounds : Nat) :
    ∃ l, Shows False (r.waitIdle a rounds) l ∧ P l :=
  kept_pass hstep h _ _ _

end Kept

end Runner

end QuasiGrammar
