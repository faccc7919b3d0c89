import Mathlib.Data.List.Induction
import QuasiGrammar.Proofs.Debounce.Heap
import QuasiGrammar.Proofs.Debounce.Progress
import QuasiGrammar.Proofs.Debounce.Simulation
import QuasiGrammar.Proofs.Debounce.Timeline

/-
  QuasiGrammar.Proofs.Debounce.Passing
  ────────────────────────────────────
  **Time that passes is made of ticks, and leaves nothing undone.**

  Whatever ticks and calls there have been, the runner looks like a line that
  keeps its time (`exists_line`).  The head of its agenda, once tidy, is the
  turn that is due first and not before now, so the time of the next round is a
  time before which nothing is to be done; and as each round leaves fewer turns
  to be taken, the rounds that are counted suffice (`advance_eq_ticks`).
-/

namespace QuasiGrammar

variable {ι : Type}

/-! ## §1. Ticks and calls as steps of a line. -/

namespace Runner

variable {r : JobRunner ι} {l : JobLine ι} {source : String}

/-- At every moment the runner looks like a line that keeps its time. -/
theorem exists_line (source : String) (moves : List (Move (Job ι))) :
    ∃ l : JobLine ι,
      Shows True ((Runner.initial () : JobRunner ι).play (Job.action source) moves) l ∧
        l.OnTime source ∧
          l.fired = (Runner.initial () : JobRunner ι).fired (Job.action source) moves := by
  induction moves using List.reverseRecOn with
  | nil => exact ⟨_, shows_initial True (), Line.onTime_initial source, rfl⟩
  | append_singleton before m ih =>
    obtain ⟨l, hshows, hon, hfired⟩ := ih
    rw [play_append, fired_append, ← hfired]
    cases m with
    | schedule quiet j =>
      exact ⟨_, shows_schedule hshows (some quiet) j, Line.onTime_schedule hon quiet j,
        (List.append_nil _).symm⟩
    | cancel =>
      exact ⟨_, shows_cancel hshows, Line.onTime_cancel hon, (List.append_nil _).symm⟩
    | tick t =>
      obtain ⟨l', hstep, hfired', hshows'⟩ := shows_tick (Job.action source) hshows t
      refine ⟨l', hshows', Line.onTime_step hon hstep, ?_⟩
      rw [hfired', fired, fired, List.append_nil]

/-- What is still to be seen of a line that looks like a calm runner comes later than now. -/
theorem lt_of_isCalm (h : Shows True r l) (hon : l.OnTime source)
    (hcalm : r.isCalm (r.clock + 1) = true) :
    ∀ e ∈ Line.future source l.clock l.current l.waiting, l.clock < e.1 := by
  obtain ⟨hstep, -⟩ := shows_pass (Job.action source) h (fun _ => Nat.le_succ r.clock) fun _ => hcalm
  have hon' := Line.onTime_step hon hstep
  -- The clock may go on by a millisecond, and the line is in time afterwards; what is to come
  -- of it is the same, and now it comes later than the old time.
  have hsame : Line.future source (r.clock + 1) l.current l.waiting =
      Line.future source l.clock l.current l.waiting :=
    List.append_cancel_left (hon'.whole.trans hon.whole.symm)
  intro e he
  rw [← hsame] at he
  have : r.clock + 1 ≤ e.1 := hon'.le_of_mem_future he
  rw [h.clock]
  omega

/-! ## §2. The head of the agenda. -/

section Head

variable {τ : Type} {α σ ε : Type} {r : Runner ι α σ τ ε}

/-- The agenda is in order, the earliest turn first. -/
def InOrder (r : Runner ι α σ τ ε) : Prop := Agenda.Ordered r.agenda.slots

theorem inOrder_initial (state : σ) : (Runner.initial state : Runner ι α σ τ ε).InOrder :=
  Agenda.ordered_empty

theorem InOrder.schedule (h : r.InOrder) (quiet : Option Int) (x : ι) :
    (r.schedule quiet x).InOrder := by
  cases quiet with
  | none => exact h
  | some ms => exact Agenda.ordered_push h _

theorem InOrder.conclude (h : r.InOrder) : r.conclude.InOrder := by
  rw [conclude_eq]
  exact h

theorem InOrder.absorb (h : r.InOrder) (a : Action ι α σ τ ε) (isRun : Bool)
    (s : Stretch α σ τ ε) : (absorb a isRun s r).InOrder := by
  unfold Runner.absorb
  cases s.stop with
  | paused ms task => exact Agenda.ordered_push h _
  | ended result =>
    cases isRun with
    | false => exact h
    | true =>
      exact InOrder.conclude (r := (({ r with state := s.state } : Runner ι α σ τ ε).see
        s.events).see (warningOf a result)) h

theorem InOrder.take (h : r.InOrder) (a : Action ι α σ τ ε) (t : Turn ι τ) :
    (take a r t).InOrder := by
  have hbegin : ∀ p : Option ι × Debounce ι, (begin a r p).InOrder := by
    rintro ⟨_ | x, d⟩
    · exact h
    · exact InOrder.absorb (r := { r with scheduler := d, begun := r.begun ++ [x] }) h a true _
  cases t with
  | ring number =>
    unfold Runner.take
    by_cases harmed : r.scheduler.isArmed number = true
    · simp only [if_pos harmed]
      exact h
    · simp only [if_neg harmed]
      exact h
  | enter => exact hbegin _
  | wake => exact hbegin _
  | rouse isRun task => exact h
  | resume isRun task => exact h.absorb a isRun _
  | retire => exact h
  | beside x => exact h.absorb a false _

theorem InOrder.dropVoid (h : r.InOrder) (n : Nat) : (dropVoid n r).InOrder := by
  apply dropVoid_induction _ n h
  intro r s left hpop _ h
  exact Agenda.ordered_pop? h hpop

theorem InOrder.collect (h : r.InOrder) (n : Nat) : (collect n r).InOrder := by
  apply collect_induction _ n h
  intro r s left hpop _ h
  exact Agenda.ordered_pop? h hpop

theorem InOrder.tick (h : r.InOrder) (a : Action ι α σ τ ε) (t : Tick) : (r.tick a t).InOrder := by
  cases t with
  | tidy => exact h.dropVoid _
  | gather => exact h.collect _
  | turn =>
    show (r.takeNext a).InOrder
    unfold takeNext
    cases hready : r.ready with
    | nil => exact h
    | cons t rest => exact InOrder.take (r := { r with ready := rest }) h a t
  | wait ms =>
    by_cases hcalm : r.isCalm (r.clock + ms) = true
    · rw [tick_wait_of_calm a hcalm]
      exact h
    · rw [tick_wait_of_not_calm a hcalm]
      exact h

/-- The head of an agenda that is tidy is a turn that will do something. -/
theorem isVoid_head_dropVoid {n : Nat} (hn : r.agenda.size ≤ n) {s : Slot (Turn ι τ)}
    (hhead : (dropVoid n r).agenda.head? = some s) : (dropVoid n r).isVoid s.item = false := by
  -- With each void turn that is dropped the agenda gets shorter.
  induction n generalizing r with
  | zero =>
    have hsome := (Array.getElem?_eq_some_iff.1 hhead).1
    exact absurd hsome (Nat.not_lt.2 hn)
  | succ n ih =>
    unfold Runner.dropVoid at hhead ⊢
    cases hpop : r.agenda.pop? with
    | none =>
      rw [hpop] at hhead
      cases hhead.symm.trans (Agenda.head?_of_pop?_none hpop)
    | some p =>
      obtain ⟨first, left⟩ := p
      rw [hpop] at hhead
      by_cases hvoid : r.isVoid first.item = true
      · simp only [if_pos hvoid] at hhead ⊢
        have hsize := Agenda.size_pop? hpop
        exact ih (r := { r with agenda := left }) (show left.size ≤ n by omega) hhead
      · simp only [if_neg hvoid] at hhead ⊢
        rw [Agenda.head?_of_pop? hpop] at hhead
        cases hhead
        simpa using hvoid

theorem clock_dropVoid (n : Nat) (r : Runner ι α σ τ ε) : (dropVoid n r).clock = r.clock :=
  dropVoid_induction (P := fun r' => r'.clock = r.clock) (fun _ _ _ _ _ h => h) n rfl

theorem clock_collect (n : Nat) (r : Runner ι α σ τ ε) : (collect n r).clock = r.clock :=
  collect_induction (P := fun r' => r'.clock = r.clock) (fun _ _ _ _ _ h => h) n rfl

theorem clock_conclude (r : Runner ι α σ τ ε) : r.conclude.clock = r.clock := by
  rw [conclude_eq]

theorem clock_absorb (a : Action ι α σ τ ε) (isRun : Bool) (s : Stretch α σ τ ε)
    (r : Runner ι α σ τ ε) : (absorb a isRun s r).clock = r.clock := by
  unfold absorb
  cases s.stop with
  | paused ms task => rfl
  | ended result =>
    cases isRun with
    | false => rfl
    | true => exact clock_conclude _

theorem clock_take (a : Action ι α σ τ ε) (r : Runner ι α σ τ ε) (t : Turn ι τ) :
    (take a r t).clock = r.clock := by
  have hbegin : ∀ p : Option ι × Debounce ι, (begin a r p).clock = r.clock := by
    rintro ⟨_ | x, d⟩
    · rfl
    · exact clock_absorb a true _ _
  cases t with
  | ring number =>
    unfold take
    by_cases harmed : r.scheduler.isArmed number = true
    · simp only [if_pos harmed]
      rfl
    · simp only [if_neg harmed]
  | enter => exact hbegin _
  | wake => exact hbegin _
  | rouse isRun task => rfl
  | resume isRun task => exact clock_absorb a isRun _ r
  | retire => rfl
  | beside x => exact clock_absorb a false _ r

/-- The clock stands still in a round. -/
theorem clock_round (a : Action ι α σ τ ε) (r : Runner ι α σ τ ε) :
    (round a r).clock = r.clock := by
  have htake : ∀ (turns : List (Turn ι τ)) (r : Runner ι α σ τ ε),
      (turns.foldl (take a) r).clock = r.clock := by
    intro turns
    induction turns with
    | nil => exact fun _ => rfl
    | cons t rest ih =>
      intro r
      exact (ih _).trans (clock_take a r t)
  exact (htake _ _).trans (clock_collect _ r)

/-- What is due joins the end of the queue. -/
theorem ready_collect (n : Nat) (r : Runner ι α σ τ ε) :
    ∃ more, (collect n r).ready = r.ready ++ more := by
  apply collect_induction (P := fun r' => ∃ more, r'.ready = r.ready ++ more)
  · rintro r' s left _ _ ⟨more, hmore⟩
    refine ⟨more ++ [s.item], ?_⟩
    show r'.ready ++ [s.item] = _
    rw [hmore, List.append_assoc]
  · exact ⟨[], (List.append_nil _).symm⟩

/-- The next round takes place now if a turn is ready, and else when the head of the agenda is due. -/
theorem nextTime?_cases {time : Nat} (h : r.nextTime? = some time) :
    (r.ready ≠ [] ∧ time = r.clock) ∨
      r.ready = [] ∧ ∃ s, r.agenda.head? = some s ∧ time = max r.clock s.due.toNat := by
  unfold nextTime? at h
  by_cases hready : r.ready = []
  · rw [hready] at h
    obtain ⟨s, hs, htime⟩ := Option.map_eq_some_iff.1 h
    exact .inr ⟨hready, s, hs, htime.symm⟩
  · have hne : r.ready.isEmpty = false := by simpa using hready
    rw [hne] at h
    exact .inl ⟨hready, (Option.some.inj h).symm⟩

end Head

/-! ## §3. Rounds. -/

/-- A runner that was reached by ticks and calls: it looks like a line that keeps its time, and its
agenda is in order. -/
structure InTime (source : String) (r : JobRunner ι) : Prop where
  line : ∃ l : JobLine ι, Shows True r l ∧ l.OnTime source
  order : r.InOrder

theorem InTime.tick (h : InTime source r) (t : Tick) :
    InTime source (r.tick (Job.action source) t) := by
  obtain ⟨l, hshows, hon⟩ := h.line
  obtain ⟨l', hstep, -, hshows'⟩ := shows_tick (Job.action source) hshows t
  exact ⟨⟨l', hshows', Line.onTime_step hon hstep⟩, h.order.tick _ t⟩

theorem InTime.ticks (h : InTime source r) (ts : List Tick) :
    InTime source (r.ticks (Job.action source) ts) := by
  induction ts generalizing r with
  | nil => exact h
  | cons t rest ih => exact ih (h.tick t)

theorem inTime_play (source : String) (moves : List (Move (Job ι))) :
    InTime source ((Runner.initial () : JobRunner ι).play (Job.action source) moves) := by
  obtain ⟨l, hshows, hon, -⟩ := exists_line source moves
  refine ⟨⟨l, hshows, hon⟩, ?_⟩
  clear hshows hon
  induction moves using List.reverseRecOn with
  | nil => exact inOrder_initial ()
  | append_singleton before m ih =>
    rw [play_append]
    cases m with
    | schedule quiet j => exact InOrder.schedule ih (some ↑quiet) j
    | cancel => exact ih
    | tick t => exact InOrder.tick ih _ t

/-- A turn of the agenda that will do something is due now or later. -/
theorem InTime.clock_le_due (h : InTime source r) {s : Slot (Turn (Job ι) (Job ι))}
    (hs : s ∈ r.agenda.toList) (hlive : r.isVoid s.item = false) : (r.clock : Int) ≤ s.due := by
  obtain ⟨l, hshows, hon⟩ := h.line
  obtain ⟨ended, waiting, queued, hstands, -⟩ := hshows.stands
  rcases Turn.isTimed_cases (hstands.counts.timed s hs) with ⟨number, hitem⟩ | ⟨task, hitem⟩
  · -- It rings for the armed timer, so the alarm is set to its time.
    rw [hitem] at hlive
    have harmed : r.scheduler.isArmed number = true := by simpa [isVoid] using hlive
    unfold Debounce.isArmed at harmed
    obtain ⟨t, htimer, hnum⟩ := (Option.any_eq_true _ _).1 harmed
    have hnum : t.number = number := by simpa using hnum
    obtain ⟨-, due?, halarm, hsole⟩ := hshows.rings.armed t htimer
    have hbell : s.item.bell? t.number = some () := by
      rw [hitem]
      exact if_pos hnum.symm
    have htoken := hsole.eq_of_mem hs hbell
    obtain ⟨due, hdue, hpair⟩ := Option.map_eq_some_iff.1 htoken
    cases hpair
    obtain ⟨time, htime, hle⟩ := hon.alarm due? t.inputs halarm
    rw [hdue] at htime
    have htime : s.due = time := Option.some.inj htime
    have hclock := hshows.clock
    omega
  · -- It goes on with the one who is served, when its pause is over.
    have htoken := hshows.work.eq_of_mem hs (b := task) (by rw [hitem]; rfl)
    obtain ⟨p, hp, hpair⟩ := Option.map_eq_some_iff.1 htoken
    obtain ⟨hdue, -⟩ := Prod.mk.inj hpair
    have hle := hon.pause p hp
    have hclock := hshows.clock
    omega

/-- Until the head of the agenda is due, nothing is to be done. -/
theorem isCalm_of_head (h : InTime source r) (hready : r.ready = []) {time : Nat}
    (hhead : ∀ s, r.agenda.head? = some s → (time : Int) ≤ s.due) : r.isCalm time = true := by
  unfold isCalm
  rw [hready, Bool.and_eq_true, List.all_eq_true]
  refine ⟨rfl, ?_⟩
  intro s hs
  obtain ⟨first, hfirst⟩ := Agenda.exists_head?_of_mem hs
  have hle := Agenda.due_head_le h.order hfirst hs
  have := hhead first hfirst
  rw [Bool.or_eq_true, decide_eq_true_eq]
  exact .inr (by omega)

/-- The clock goes to the time of the next round by a tick. -/
theorem tick_wait_nextTime (h : InTime source r) {time : Nat}
    (hnext : r.tidy.nextTime? = some time) :
    r.tidy.tick (Job.action source) (.wait (time - r.tidy.clock)) =
      { r.tidy with clock := time } := by
  have htidy : InTime source r.tidy := h.tick .tidy
  -- If turns are ready the round takes place now, and the clock has nowhere to go.
  rcases nextTime?_cases hnext with ⟨hready, rfl⟩ | ⟨hready, s, hs, htime⟩
  · have hne : r.tidy.ready.isEmpty = false := by simpa using hready
    rw [tick_wait_of_not_calm]
    unfold isCalm
    rw [hne]
    exact Bool.false_ne_true
  · have hlive := isVoid_head_dropVoid (Nat.le_refl _) hs
    have hle := htidy.clock_le_due (Agenda.mem_of_head? hs) hlive
    have hsum : r.tidy.clock + (time - r.tidy.clock) = time := by omega
    have hcalm : r.tidy.isCalm time = true := by
      refine isCalm_of_head htidy hready ?_
      intro s' hs'
      cases hs.symm.trans hs'
      omega
    rw [tick_wait_of_calm _ (by rw [hsum]; exact hcalm), hsum]

/-- The clock goes to the time of the next round, and the turns of that round are taken. -/
theorem round_eq_ticks_of_nextTime (h : InTime source r) {time : Nat}
    (hnext : r.tidy.nextTime? = some time) :
    ∃ ts, round (Job.action source) ({ r.tidy with clock := time } : JobRunner ι) =
      r.ticks (Job.action source) ts := by
  rw [round_eq_ticks, ← tick_wait_nextTime h hnext]
  exact ⟨.tidy :: .wait (time - r.tidy.clock) :: .gather :: List.replicate _ .turn, rfl⟩

/-- What is ready or due at the time of the next round is taken in it. -/
theorem gather_ready_ne_nil {time : Nat} (hnext : r.nextTime? = some time) :
    (gather ({ r with clock := time } : JobRunner ι)).ready ≠ [] := by
  rcases nextTime?_cases hnext with ⟨hready, -⟩ | ⟨-, s, hs, htime⟩
  · obtain ⟨more, hmore⟩ := ready_collect r.agenda.size ({ r with clock := time } : JobRunner ι)
    show (collect r.agenda.size ({ r with clock := time } : JobRunner ι)).ready ≠ []
    rw [hmore]
    exact List.append_ne_nil_of_left_ne_nil hready more
  · -- The head of the agenda is due, so it is the first one to join the queue.
    obtain ⟨left, hpop⟩ := Agenda.exists_pop?_of_head? hs
    have hdue : s.due ≤ time := by omega
    show (collect r.agenda.size ({ r with clock := time } : JobRunner ι)).ready ≠ []
    rw [Agenda.size_pop? hpop]
    unfold collect
    rw [hpop]
    simp only [if_pos hdue]
    obtain ⟨more, hmore⟩ := ready_collect left.size
      (({ r with clock := time, agenda := left } : JobRunner ι).enqueue s.item)
    rw [hmore]
    refine List.append_ne_nil_of_left_ne_nil ?_ more
    show r.ready ++ [s.item] ≠ []
    exact List.append_ne_nil_of_right_ne_nil r.ready (List.cons_ne_nil s.item [])

/-- A round leaves fewer turns to be taken. -/
theorem rounds_nextTime_lt (source : String) {time : Nat} (hnext : r.tidy.nextTime? = some time) :
    JobRunner.rounds (round (Job.action source) ({ r.tidy with clock := time } : JobRunner ι)) <
      JobRunner.rounds r := by
  have hlt := JobRunner.rounds_round_lt source (gather_ready_ne_nil hnext)
  exact Nat.lt_of_lt_of_le hlt (JobRunner.rounds_dropVoid _ r)

/-- When the next round would come after a time, or no round would, all is calm up to then. -/
theorem isCalm_of_nextTime (h : InTime source r) {limit : Nat} (hle : r.clock ≤ limit)
    (hnext : ∀ time, r.nextTime? = some time → limit < time) : r.isCalm (limit + 1) = true := by
  have hready : r.ready = [] := by
    by_cases hready : r.ready = []
    · exact hready
    · have hnow : r.nextTime? = some r.clock := by
        unfold nextTime?
        rw [show r.ready.isEmpty = false by simpa using hready]
        rfl
      exact absurd (hnext _ hnow) (Nat.not_lt.2 hle)
  apply isCalm_of_head h hready
  intro s hs
  have hnow : r.nextTime? = some (max r.clock s.due.toNat) := by
    unfold nextTime?
    rw [hready, hs]
    rfl
  have := hnext _ hnow
  omega

/-- **Rounds are ticks, and enough of them leave nothing undone up to the limit.** -/
theorem pass_eq_ticks (n : Nat) {limit : Nat} (h : InTime source r) (hlimit : r.clock ≤ limit) :
    ∃ ts, pass (Job.action source) (some limit) (fun _ => false) n r =
        r.ticks (Job.action source) ts ∧
      (r.ticks (Job.action source) ts).clock ≤ limit ∧
        (JobRunner.rounds r ≤ n →
          (r.ticks (Job.action source) ts).isCalm (limit + 1) = true) := by
  -- Over the number of rounds; enough of them are left if they are as many as the turns.
  induction n generalizing r with
  | zero =>
    refine ⟨[], rfl, hlimit, ?_⟩
    intro hrounds
    obtain ⟨hready, hagenda⟩ := JobRunner.eq_nil_of_rounds hrounds
    unfold isCalm
    show (r.ready.isEmpty && r.agenda.toList.all _) = true
    rw [hready, hagenda]
    rfl
  | succ n ih =>
    have htidy : InTime source r.tidy := h.tick .tidy
    have hclock : r.tidy.clock ≤ limit := by
      rw [show r.tidy.clock = r.clock from clock_dropVoid _ r]
      exact hlimit
    unfold pass
    simp only [Bool.false_eq_true, if_false]
    cases hnext : r.tidy.nextTime? with
    | none =>
      refine ⟨[.tidy], rfl, hclock, fun _ => isCalm_of_nextTime htidy hclock ?_⟩
      intro time htime
      cases hnext.symm.trans htime
    | some time =>
      simp only [Option.any_some]
      by_cases hbeyond : limit < time
      · simp only [decide_eq_true hbeyond, if_true]
        refine ⟨[.tidy], rfl, hclock, fun _ => isCalm_of_nextTime htidy hclock ?_⟩
        intro time' htime
        cases hnext.symm.trans htime
        exact hbeyond
      · simp only [decide_eq_false hbeyond, Bool.false_eq_true, if_false]
        -- The round consists of ticks, and leaves fewer turns for those that follow.
        obtain ⟨before, hbefore⟩ := round_eq_ticks_of_nextTime h hnext
        have hround := h.ticks before
        have hlater : (r.ticks (Job.action source) before).clock ≤ limit := by
          rw [← hbefore, clock_round]
          exact Nat.le_of_not_lt hbeyond
        have hfewer := rounds_nextTime_lt source hnext
        rw [hbefore] at hfewer ⊢
        obtain ⟨after, hafter, hle, hcalm⟩ := ih hround hlater
        rw [← ticks_append] at hafter hle hcalm
        exact ⟨before ++ after, hafter, hle, fun hrounds => hcalm (by omega)⟩

/-- Nothing that is calm up to some time is less calm up to an earlier one. -/
theorem isCalm_of_le {time time' : Nat} (hle : time ≤ time') (h : r.isCalm time' = true) :
    r.isCalm time = true := by
  unfold isCalm at h ⊢
  rw [Bool.and_eq_true, List.all_eq_true] at h ⊢
  refine ⟨h.1, ?_⟩
  intro s hs
  have hlive := h.2 s hs
  rw [Bool.or_eq_true, decide_eq_true_eq] at hlive ⊢
  exact hlive.imp_right fun hdue => Int.le_trans (Int.ofNat_le.2 hle) hdue

/-- Letting time pass is nothing but ticks, after which nothing is to be done now. -/
theorem advance_eq_ticks (h : InTime source r) (ms : Nat) :
    ∃ ts, r.advance (Job.action source) (JobRunner.rounds r) ms =
        r.ticks (Job.action source) ts ∧
      (r.ticks (Job.action source) ts).clock = r.clock + ms ∧
        (r.ticks (Job.action source) ts).isCalm (r.clock + ms + 1) = true := by
  obtain ⟨ts, hts, hle, hcalm⟩ :=
    pass_eq_ticks (JobRunner.rounds r) h (Nat.le_add_right r.clock ms)
  have hcalm := hcalm (Nat.le_refl _)
  -- The last tick moves the clock to the limit.
  let last := Tick.wait (r.clock + ms - (r.ticks (Job.action source) ts).clock)
  have hsum : (r.ticks (Job.action source) ts).clock +
      (r.clock + ms - (r.ticks (Job.action source) ts).clock) = r.clock + ms := by
    omega
  have hlast : (r.ticks (Job.action source) ts).tick (Job.action source) last =
      { r.ticks (Job.action source) ts with clock := r.clock + ms } := by
    rw [tick_wait_of_calm, hsum]
    rw [hsum]
    exact isCalm_of_le (Nat.le_succ _) hcalm
  have hall : r.ticks (Job.action source) (ts ++ [last]) =
      { r.ticks (Job.action source) ts with clock := r.clock + ms } := by
    rw [ticks_append]
    exact hlast
  refine ⟨ts ++ [last], ?_, ?_, ?_⟩
  · rw [hall, ← hts]
    rfl
  · rw [hall]
  · rw [hall]
    exact hcalm

end Runner

end QuasiGrammar
