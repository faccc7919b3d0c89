import QuasiGrammar.Debounce.Job
import QuasiGrammar.Debounce.Moves

/-
  QuasiGrammar.Proofs.Debounce.Progress
  ─────────────────────────────────────
  **Jobs come to their end.**

  `JobRunner.rounds` counts the turns that are still to be taken: those that are
  ready or in the agenda, and those of the jobs that have not begun.  Whatever
  turn is taken, fewer of them are left than before (`rounds_take_lt`), and no
  tick adds one (`rounds_tick_le`).
-/

namespace QuasiGrammar

namespace JobRunner

variable {ι : Type} {r : JobRunner ι} {source : String}

/-! ## §1. Jobs that have not begun. -/

/-- The turns of a job in a phase, if it has not begun. -/
def turnsIn (p : Phase) (j : Job ι) : Nat := turnsAhead ⟨j, p⟩

/-- The turns of all runs that have not begun. -/
def ahead (d : Debounce (Job ι)) : Nat := total turnsAhead d.runs

theorem total_moveFirst {old new : Phase} {runs rest : List (Fired (Job ι))} {j : Job ι}
    (h : Debounce.moveFirst old new runs = some (j, rest)) :
    total turnsAhead rest + turnsIn old j = total turnsAhead runs + turnsIn new j := by
  induction runs generalizing rest with
  | nil => cases h
  | cons first runs ih =>
    unfold Debounce.moveFirst at h
    -- The run that moves exchanges its turns in the one phase for those in the other.
    by_cases hold : first.phase = old
    · rw [if_pos hold] at h
      cases h
      subst hold
      show (turnsIn new first.inputs + _) + turnsIn first.phase first.inputs =
        (turnsIn first.phase first.inputs + _) + turnsIn new first.inputs
      omega
    · rw [if_neg hold] at h
      obtain ⟨p, hp, he⟩ := Option.map_eq_some_iff.1 h
      cases he
      have := ih hp
      rw [total_cons, total_cons]
      omega

theorem ahead_move (d : Debounce (Job ι)) (old new : Phase) :
    ahead (d.move old new).2 + total (turnsIn old) (d.move old new).1.toList =
      ahead d + total (turnsIn new) (d.move old new).1.toList := by
  unfold Debounce.move
  split
  · rfl
  · next j runs hmove => exact total_moveFirst hmove

/-- A job that begins is no longer ahead. -/
theorem ahead_start {old : Phase} (hold : turnsIn old = (Job.turns : Job ι → Nat))
    (d : Debounce (Job ι)) :
    ahead (d.move old .underway).2 + total Job.turns (d.move old .underway).1.toList =
      ahead d := by
  have hmove := ahead_move d old .underway
  rw [hold] at hmove
  rw [hmove]
  cases (d.move old .underway).1 with
  | none => rfl
  | some j => rfl

theorem ahead_enter (d : Debounce (Job ι)) :
    ahead d.enter.2 + total Job.turns d.enter.1.toList = ahead d := by
  unfold Debounce.enter
  by_cases hheld : d.isHeld = true
  · rw [if_pos hheld]
    -- A job that waits is as far from its end as before.
    have hmove := ahead_move d .queued .waiting
    exact Nat.add_right_cancel hmove
  · rw [if_neg hheld]
    exact ahead_start rfl d

theorem ahead_wake (d : Debounce (Job ι)) :
    ahead d.wake.2 + total Job.turns d.wake.1.toList = ahead d :=
  ahead_start rfl d

theorem ahead_finish (d : Debounce (Job ι)) : ahead d.finish = ahead d := by
  unfold ahead Debounce.finish
  apply total_map
  intro f
  show turnsAhead (if f.phase = .underway then { f with phase := .ended } else f) = turnsAhead f
  by_cases hf : f.phase = .underway
  · rw [if_pos hf]
    unfold turnsAhead
    rw [hf]
  · rw [if_neg hf]

theorem ahead_reap (d : Debounce (Job ι)) : ahead d.reap = ahead d := by
  have hruns : d.reap.runs = d.runs.eraseP (·.phase = .ended) := by
    unfold Debounce.reap Debounce.updateIdle
    split <;> rfl
  unfold ahead
  rw [hruns]
  -- A run that has come to its end is counted with no turns.
  rcases List.exists_or_eq_self_of_eraseP (·.phase = .ended) d.runs with hsame | hfound
  · rw [hsame]
  · obtain ⟨f, before, after, -, hf, hruns, herased⟩ := hfound
    have hzero : turnsAhead f = 0 := by
      unfold turnsAhead
      rw [of_decide_eq_true hf]
    rw [herased, hruns, total_append, total_append, total_cons, hzero, Nat.zero_add]

theorem timer_move (d : Debounce (Job ι)) (old new : Phase) :
    (d.move old new).2.timer = d.timer := by
  unfold Debounce.move
  split <;> rfl

theorem timer_enter (d : Debounce (Job ι)) : d.enter.2.timer = d.timer := by
  unfold Debounce.enter
  by_cases hheld : d.isHeld = true
  · rw [if_pos hheld]
    exact timer_move d .queued .waiting
  · rw [if_neg hheld]
    exact timer_move d .queued .underway

theorem timer_reap (d : Debounce (Job ι)) : d.reap.timer = d.timer := by
  unfold Debounce.reap Debounce.updateIdle
  split <;> rfl

/-! ## §2. Turns. -/

/-- The turns of the armed timer, and of the job that it is armed for. -/
def timed (d : Debounce (Job ι)) : Nat := total (·.inputs.turns + 1) d.timer.toList

/-- The turns that are ready, and those that come of them. -/
def prepared (turns : List (Turn (Job ι) (Job ι))) : Nat := total turnsOf turns

/-- The turns in the agenda, and those that come of them. -/
def planned (agenda : Agenda (Turn (Job ι) (Job ι))) : Nat :=
  total (turnsOf ·.item) agenda.toList

theorem rounds_eq (r : JobRunner ι) :
    rounds r = prepared r.ready + planned r.agenda + ahead r.scheduler + timed r.scheduler := rfl

theorem prepared_append (before after : List (Turn (Job ι) (Job ι))) :
    prepared (before ++ after) = prepared before + prepared after :=
  total_append turnsOf before after

theorem planned_push (s : Slot (Turn (Job ι) (Job ι))) (agenda : Agenda (Turn (Job ι) (Job ι))) :
    planned (agenda.push s) = turnsOf s.item + planned agenda := by
  unfold planned
  rw [total_perm _ (Agenda.perm_push s agenda), total_cons]

theorem planned_pop {s : Slot (Turn (Job ι) (Job ι))} {agenda left : Agenda (Turn (Job ι) (Job ι))}
    (h : agenda.pop? = some (s, left)) : planned agenda = turnsOf s.item + planned left := by
  unfold planned
  rw [total_perm _ (Agenda.perm_pop? h), total_cons]

theorem turnsOf_pos (t : Turn (Job ι) (Job ι)) : 0 < turnsOf t := by
  cases t <;> exact Nat.succ_pos _

theorem eq_nil_of_rounds (h : rounds r ≤ 0) : r.ready = [] ∧ r.agenda.toList = [] := by
  rw [rounds_eq] at h
  constructor
  · cases hready : r.ready with
    | nil => rfl
    | cons t rest =>
      have hpos := turnsOf_pos t
      have hsum : prepared (t :: rest) = turnsOf t + prepared rest := total_cons ..
      rw [hready] at h
      omega
  · cases hagenda : r.agenda.toList with
    | nil => rfl
    | cons s rest =>
      have hpos := turnsOf_pos s.item
      have hsum : planned r.agenda = turnsOf s.item + total (turnsOf ·.item) rest := by
        unfold planned
        rw [hagenda, total_cons]
      omega

theorem rounds_enqueue (t : Turn (Job ι) (Job ι)) (r : JobRunner ι) :
    rounds (r.enqueue t) = rounds r + turnsOf t := by
  have hready : prepared (r.enqueue t).ready = prepared r.ready + turnsOf t :=
    prepared_append r.ready [t]
  rw [rounds_eq, rounds_eq, hready]
  show prepared r.ready + turnsOf t + planned r.agenda + ahead r.scheduler + timed r.scheduler = _
  omega

theorem rounds_plan (ms : Int) (t : Turn (Job ι) (Job ι)) (r : JobRunner ι) :
    rounds (r.plan ms t) = rounds r + turnsOf t := by
  have hagenda : planned (r.plan ms t).agenda = turnsOf t + planned r.agenda :=
    planned_push ⟨r.clock + ms, t⟩ r.agenda
  rw [rounds_eq, rounds_eq, hagenda]
  show prepared r.ready + _ + ahead r.scheduler + timed r.scheduler = _
  omega

theorem rounds_conclude (r : JobRunner ι) : rounds r.conclude ≤ rounds r + 2 := by
  have hfinish : rounds ({ r with scheduler := r.scheduler.finish } : JobRunner ι) = rounds r := by
    rw [rounds_eq, rounds_eq]
    show prepared r.ready + planned r.agenda + ahead r.scheduler.finish + timed r.scheduler = _
    rw [ahead_finish]
  unfold Runner.conclude
  by_cases hw : r.scheduler.finish.hasWaiting = true
  · simp only [if_pos hw]
    rw [rounds_enqueue, rounds_enqueue, hfinish]
    exact Nat.le_refl _
  · simp only [if_neg hw]
    rw [rounds_enqueue, hfinish]
    exact Nat.le_succ _

/-- A stretch of a job costs no more turns than are counted for it. -/
theorem rounds_absorb (source : String) (isRun : Bool) (j : Job ι) {s : Stretch Unit Unit (Job ι) (JobEvent ι)}
    (hstop : s.stop = j.stretch.stop) (r : JobRunner ι) :
    rounds (Runner.absorb (Job.action source) isRun s r) ≤ rounds r + j.turns := by
  unfold Runner.absorb
  rw [hstop]
  unfold Job.stretch Job.turns
  -- At its end a job is concluded; at a pause it has one pause less, and a turn to go on with.
  cases j.pauses with
  | nil =>
    have hended : ∀ result : Except Failure Unit,
        rounds (if isRun then ((({ r with state := s.state } : JobRunner ι).see s.events).see
            (Runner.warningOf (Job.action source) result)).conclude
          else { (({ r with state := s.state } : JobRunner ι).see s.events) with
            aside := some result }) ≤ rounds r + 2 := by
      intro result
      cases isRun with
      | true => exact rounds_conclude _
      | false => exact Nat.le_add_right _ _
    unfold Job.closing
    cases j.failure with
    | none => exact hended _
    | some f => exact hended _
  | cons ms rest =>
    show rounds ((({ r with state := s.state } : JobRunner ι).see s.events).plan ms
      (.rouse isRun { j with pauses := rest })) ≤ rounds r + (2 * (rest.length + 1) + 2)
    rw [rounds_plan]
    exact Nat.le_refl _

theorem timed_of_timer {d old : Debounce (Job ι)} (h : d.timer = old.timer) :
    timed d = timed old := by
  unfold timed
  rw [h]

/-- The turns of the job have been counted with the timer, and the one that rings besides. -/
theorem fire_of_isArmed {number : Nat} {d : Debounce (Job ι)} (h : d.isArmed number = true) :
    ahead d.fire + timed d.fire + 1 = ahead d + timed d := by
  obtain ⟨timer, htimer, -⟩ := (Option.any_eq_true _ _).1 h
  have hahead : ahead d.fire = ahead d + timer.inputs.turns := by
    unfold ahead Debounce.fire
    rw [htimer]
    show total turnsAhead (d.runs ++ [(⟨timer.inputs, .queued⟩ : Fired (Job ι))]) = _
    rw [total_append]
    rfl
  have hfired : timed d.fire = 0 := by
    unfold timed Debounce.fire
    rw [htimer]
    rfl
  have htimed : timed d = timer.inputs.turns + 1 := by
    unfold timed
    rw [htimer]
    rfl
  omega

/-- A scheduler from which a job begins has the turns of that job no longer ahead. -/
theorem rounds_begin (source : String) (r : JobRunner ι) (p : Option (Job ι) × Debounce (Job ι))
    (htimer : p.2.timer = r.scheduler.timer)
    (hahead : ahead p.2 + total Job.turns p.1.toList = ahead r.scheduler) :
    rounds (Runner.begin (Job.action source) r p) ≤ rounds r := by
  have hleft : rounds ({ r with scheduler := p.2 } : JobRunner ι) + total Job.turns p.1.toList =
      rounds r := by
    rw [rounds_eq, rounds_eq, ← timed_of_timer htimer]
    show prepared r.ready + planned r.agenda + ahead p.2 + timed p.2 + _ = _
    omega
  rw [← hleft]
  obtain ⟨_ | j, d⟩ := p
  · exact Nat.le_refl _
  · exact rounds_absorb source true j (s := j.opening) rfl
      { r with scheduler := d, begun := r.begun ++ [j] }

/-- **A turn that is taken leaves fewer to be taken.** -/
theorem rounds_take_lt (source : String) (r : JobRunner ι) (t : Turn (Job ι) (Job ι)) :
    rounds (Runner.take (Job.action source) r t) < rounds r + turnsOf t := by
  cases t with
  | ring number =>
    unfold Runner.take
    by_cases harmed : r.scheduler.isArmed number = true
    · simp only [if_pos harmed]
      have hfire := fire_of_isArmed harmed
      rw [rounds_enqueue, rounds_eq, rounds_eq]
      show prepared r.ready + planned r.agenda + ahead r.scheduler.fire + timed r.scheduler.fire + 1 <
        prepared r.ready + planned r.agenda + ahead r.scheduler + timed r.scheduler + 1
      omega
    · simp only [if_neg harmed]
      exact Nat.lt_succ_self _
  | enter => exact Nat.lt_succ_of_le (rounds_begin _ _ _ (timer_enter _) (ahead_enter _))
  | wake => exact Nat.lt_succ_of_le (rounds_begin _ _ _ (timer_move _ _ _) (ahead_wake _))
  | rouse isRun j =>
    show rounds (r.enqueue (.resume isRun j)) < rounds r + (j.turns + 2)
    rw [rounds_enqueue]
    show rounds r + (j.turns + 1) < _
    omega
  | resume isRun j => exact Nat.lt_succ_of_le (rounds_absorb source isRun j rfl r)
  | retire =>
    have hreap := ahead_reap r.scheduler
    have htimed := timed_of_timer (timer_reap r.scheduler)
    show prepared r.ready + planned r.agenda + ahead r.scheduler.reap + timed r.scheduler.reap <
      rounds r + 1
    rw [rounds_eq]
    omega
  | beside j =>
    exact Nat.lt_succ_of_le (rounds_absorb source false j (s := j.opening) rfl r)

/-! ## §3. Ticks. -/

theorem rounds_takeNext_lt (source : String) {r : JobRunner ι} (h : r.ready ≠ []) :
    rounds (r.takeNext (Job.action source)) < rounds r := by
  unfold Runner.takeNext
  cases hready : r.ready with
  | nil => exact absurd hready h
  | cons t rest =>
    -- The turn is no longer in the queue when it is taken.
    refine Nat.lt_of_lt_of_eq (rounds_take_lt source { r with ready := rest } t) ?_
    rw [rounds_eq, rounds_eq, hready, show prepared (t :: rest) = turnsOf t + prepared rest from
      total_cons ..]
    show prepared rest + planned r.agenda + ahead r.scheduler + timed r.scheduler + turnsOf t = _
    omega

theorem rounds_collect (n : Nat) (r : JobRunner ι) : rounds (Runner.collect n r) = rounds r := by
  apply Runner.collect_induction (P := fun r' => rounds r' = rounds r)
  · intro r' s left hpop _ hsame
    rw [← hsame, rounds_enqueue, rounds_eq, rounds_eq, planned_pop hpop]
    show prepared r'.ready + planned left + ahead r'.scheduler + timed r'.scheduler +
      turnsOf s.item = _
    omega
  · rfl

theorem rounds_dropVoid (n : Nat) (r : JobRunner ι) : rounds (Runner.dropVoid n r) ≤ rounds r := by
  apply Runner.dropVoid_induction (P := fun r' => rounds r' ≤ rounds r)
  · intro r' s left hpop _ hle
    apply Nat.le_trans _ hle
    rw [rounds_eq, rounds_eq, planned_pop hpop]
    show prepared r'.ready + planned left + ahead r'.scheduler + timed r'.scheduler ≤ _
    omega
  · exact Nat.le_refl _

/-- No tick adds to what is to be done. -/
theorem rounds_tick_le (source : String) (r : JobRunner ι) (t : Tick) :
    rounds (r.tick (Job.action source) t) ≤ rounds r := by
  cases t with
  | tidy => exact rounds_dropVoid _ r
  | gather => exact Nat.le_of_eq (rounds_collect _ r)
  | turn =>
    by_cases hready : r.ready = []
    · have hsame : r.takeNext (Job.action source) = r := by
        unfold Runner.takeNext
        rw [hready]
      exact Nat.le_of_eq (congrArg rounds hsame)
    · exact Nat.le_of_lt (rounds_takeNext_lt source hready)
  | wait ms =>
    by_cases hcalm : r.isCalm (r.clock + ms) = true
    · have hmoved : rounds (r.tick (Job.action source) (.wait ms)) =
          rounds ({ r with clock := r.clock + ms } : JobRunner ι) :=
        congrArg rounds (Runner.tick_wait_of_calm _ hcalm)
      exact Nat.le_of_eq hmoved
    · exact Nat.le_of_eq (congrArg rounds (Runner.tick_wait_of_not_calm _ hcalm))

theorem rounds_ticks_le (source : String) (r : JobRunner ι) (ts : List Tick) :
    rounds (r.ticks (Job.action source) ts) ≤ rounds r := by
  induction ts generalizing r with
  | nil => exact Nat.le_refl _
  | cons t rest ih => exact Nat.le_trans (ih _) (rounds_tick_le source r t)

/-- In a round for which something is ready or due, at least one turn is taken. -/
theorem rounds_round_lt (source : String) {r : JobRunner ι} (h : r.gather.ready ≠ []) :
    rounds (Runner.round (Job.action source) r) < rounds r := by
  have hgather : rounds r.gather = rounds r := rounds_collect _ r
  rw [Runner.round_eq_ticks, ← hgather]
  cases hready : r.gather.ready with
  | nil => exact absurd hready h
  | cons t rest =>
    show rounds ((r.gather.takeNext _).ticks _ (List.replicate rest.length .turn)) < _
    exact Nat.lt_of_le_of_lt (rounds_ticks_le source _ _) (rounds_takeNext_lt source h)

end JobRunner

end QuasiGrammar
