import QuasiGrammar.Debounce.Runner

/-
  QuasiGrammar.Debounce.Moves
  ───────────────────────────
  What happens to a runner, taken apart.  By itself it ticks: turns that do
  nothing are dropped, what is due joins the queue, the next turn is taken, or
  the clock moves on.  The clock never moves past something that is to be done:
  no turn is ready, and no turn that will do something is due before the new
  time.  Calls come from outside, between any two ticks.

  A list of moves is a course of events with all calls in their places.  Passing
  time is nothing but ticks (`round_eq_ticks`).
-/

namespace QuasiGrammar

/-! ## §1. Ticks and calls. -/

/-- A bit of what a runner does by itself. -/
inductive Tick where
  /-- Turns that do nothing are dropped from the head of the agenda. -/
  | tidy
  /-- What is due joins the queue. -/
  | gather
  /-- The next turn of the queue is taken. -/
  | turn
  /-- Some milliseconds pass, unless something is to be done before. -/
  | wait (ms : Nat)
  deriving DecidableEq, Repr

/-- A bit of what happens to a runner. -/
inductive Move (ι : Type) where
  /-- The timer is armed, for a quiet period in milliseconds. -/
  | schedule (quiet : Nat) (inputs : ι)
  | cancel
  | tick (t : Tick)
  deriving Repr

namespace Runner

variable {ι α σ τ ε : Type}

/-- What is due joins the queue. -/
def gather (r : Runner ι α σ τ ε) : Runner ι α σ τ ε := collect r.agenda.size r

/-- The next turn of the queue is taken. -/
def takeNext (a : Action ι α σ τ ε) (r : Runner ι α σ τ ε) : Runner ι α σ τ ε :=
  match r.ready with
  | [] => r
  | t :: rest => take a { r with ready := rest } t

/-- Whether nothing is to be done before a time. -/
def isCalm (r : Runner ι α σ τ ε) (time : Nat) : Bool :=
  r.ready.isEmpty && r.agenda.toList.all fun s => r.isVoid s.item || decide ((time : Int) ≤ s.due)

/-- One tick. -/
def tick (a : Action ι α σ τ ε) (r : Runner ι α σ τ ε) : Tick → Runner ι α σ τ ε
  | .tidy => r.tidy
  | .gather => r.gather
  | .turn => r.takeNext a
  | .wait ms => if r.isCalm (r.clock + ms) then { r with clock := r.clock + ms } else r

/-- One move. -/
def move (a : Action ι α σ τ ε) (r : Runner ι α σ τ ε) : Move ι → Runner ι α σ τ ε
  | .schedule quiet inputs => r.schedule (some quiet) inputs
  | .cancel => r.cancel
  | .tick t => r.tick a t

/-- Moves one after another. -/
def play (a : Action ι α σ τ ε) (r : Runner ι α σ τ ε) (moves : List (Move ι)) :
    Runner ι α σ τ ε :=
  moves.foldl (move a) r

/-- Ticks one after another. -/
def ticks (a : Action ι α σ τ ε) (r : Runner ι α σ τ ε) (ts : List Tick) : Runner ι α σ τ ε :=
  ts.foldl (tick a) r

/-- The inputs of the timer, with the time, if the next turn makes it fire. -/
def firing? (r : Runner ι α σ τ ε) : Option (Nat × ι) :=
  match r.ready with
  | .ring number :: _ =>
      if r.scheduler.isArmed number then r.scheduler.timer.map fun t => (r.clock, t.inputs) else none
  | _ => none

/-- The inputs that a move fires, with the time. -/
def firedBy (r : Runner ι α σ τ ε) : Move ι → Option (Nat × ι)
  | .tick .turn => r.firing?
  | _ => none

/-- The inputs that are fired by moves, with their times: those whose timer has come to its
turn. -/
def fired (a : Action ι α σ τ ε) (r : Runner ι α σ τ ε) : List (Move ι) → List (Nat × ι)
  | [] => []
  | m :: rest => (r.firedBy m).toList ++ fired a (r.move a m) rest

theorem tick_wait_of_calm (a : Action ι α σ τ ε) {r : Runner ι α σ τ ε} {ms : Nat}
    (h : r.isCalm (r.clock + ms) = true) :
    r.tick a (.wait ms) = { r with clock := r.clock + ms } :=
  if_pos h

theorem tick_wait_of_not_calm (a : Action ι α σ τ ε) {r : Runner ι α σ τ ε} {ms : Nat}
    (h : ¬ r.isCalm (r.clock + ms) = true) : r.tick a (.wait ms) = r :=
  if_neg h

theorem play_append (a : Action ι α σ τ ε) (r : Runner ι α σ τ ε) (before after : List (Move ι)) :
    r.play a (before ++ after) = (r.play a before).play a after :=
  List.foldl_append

theorem play_ticks (a : Action ι α σ τ ε) (r : Runner ι α σ τ ε) (ts : List Tick) :
    r.play a (ts.map .tick) = r.ticks a ts := by
  unfold play ticks
  rw [List.foldl_map]
  rfl

theorem ticks_append (a : Action ι α σ τ ε) (r : Runner ι α σ τ ε) (before after : List Tick) :
    r.ticks a (before ++ after) = (r.ticks a before).ticks a after :=
  List.foldl_append

theorem fired_append (a : Action ι α σ τ ε) (r : Runner ι α σ τ ε)
    (before after : List (Move ι)) :
    r.fired a (before ++ after) = r.fired a before ++ (r.play a before).fired a after := by
  induction before generalizing r with
  | nil => rfl
  | cons m rest ih =>
    rw [List.cons_append, fired, ih, fired, List.append_assoc]
    rfl

/-- What outlasts one slot that is due and joins the queue outlasts all of them. -/
theorem collect_induction {P : Runner ι α σ τ ε → Prop}
    (hslot : ∀ r s left, r.agenda.pop? = some (s, left) → s.due ≤ r.clock → P r →
      P (({ r with agenda := left } : Runner ι α σ τ ε).enqueue s.item))
    (n : Nat) {r : Runner ι α σ τ ε} (h : P r) : P (collect n r) := by
  induction n generalizing r with
  | zero => exact h
  | succ n ih =>
    unfold collect
    cases hpop : r.agenda.pop? with
    | none => exact h
    | some p =>
      obtain ⟨s, left⟩ := p
      by_cases hdue : s.due ≤ r.clock
      · simp only [if_pos hdue]
        exact ih (hslot r s left hpop hdue h)
      · simp only [if_neg hdue]
        exact h

/-- What outlasts one void slot that is dropped outlasts all of them. -/
theorem dropVoid_induction {P : Runner ι α σ τ ε → Prop}
    (hslot : ∀ r s left, r.agenda.pop? = some (s, left) → r.isVoid s.item = true → P r →
      P { r with agenda := left })
    (n : Nat) {r : Runner ι α σ τ ε} (h : P r) : P (dropVoid n r) := by
  induction n generalizing r with
  | zero => exact h
  | succ n ih =>
    unfold dropVoid
    cases hpop : r.agenda.pop? with
    | none => exact h
    | some p =>
      obtain ⟨s, left⟩ := p
      by_cases hvoid : r.isVoid s.item = true
      · simp only [if_pos hvoid]
        exact ih (hslot r s left hpop hvoid h)
      · simp only [if_neg hvoid]
        exact h

/-! ## §2. Rounds as ticks. -/

/-- The runner with more turns at the head of its queue. -/
def prepend (turns : List (Turn ι τ)) (r : Runner ι α σ τ ε) : Runner ι α σ τ ε :=
  { r with ready := turns ++ r.ready }

theorem enqueue_prepend (turns : List (Turn ι τ)) (t : Turn ι τ) (r : Runner ι α σ τ ε) :
    (r.prepend turns).enqueue t = (r.enqueue t).prepend turns := by
  unfold enqueue prepend
  simp only [List.append_assoc]

theorem conclude_prepend (turns : List (Turn ι τ)) (r : Runner ι α σ τ ε) :
    (r.prepend turns).conclude = r.conclude.prepend turns := by
  unfold conclude
  by_cases hw : r.scheduler.finish.hasWaiting = true
  · have hw' : (r.prepend turns).scheduler.finish.hasWaiting = true := hw
    simp only [if_pos hw, if_pos hw']
    rw [← enqueue_prepend, ← enqueue_prepend]
    rfl
  · have hw' : ¬ (r.prepend turns).scheduler.finish.hasWaiting = true := hw
    simp only [if_neg hw, if_neg hw']
    rw [← enqueue_prepend]
    rfl

theorem absorb_prepend (a : Action ι α σ τ ε) (isRun : Bool) (s : Stretch α σ τ ε)
    (turns : List (Turn ι τ)) (r : Runner ι α σ τ ε) :
    absorb a isRun s (r.prepend turns) = (absorb a isRun s r).prepend turns := by
  unfold absorb
  cases s.stop with
  | paused ms task => rfl
  | ended result =>
    cases isRun with
    | false => rfl
    | true =>
      exact conclude_prepend turns ((({ r with state := s.state }).see s.events).see
        (warningOf a result))

theorem begin_prepend (a : Action ι α σ τ ε) (turns : List (Turn ι τ)) (r : Runner ι α σ τ ε)
    (p : Option ι × Debounce ι) : begin a (r.prepend turns) p = (begin a r p).prepend turns := by
  obtain ⟨_ | inputs, d⟩ := p
  · rfl
  · exact absorb_prepend a true (a.start inputs r.state) turns
      { r with scheduler := d, begun := r.begun ++ [inputs] }

/-- A turn adds its turns to the end of the queue, and does not look at it. -/
theorem take_prepend (a : Action ι α σ τ ε) (turns : List (Turn ι τ)) (r : Runner ι α σ τ ε)
    (t : Turn ι τ) : take a (r.prepend turns) t = (take a r t).prepend turns := by
  cases t with
  | ring number =>
    unfold take
    by_cases harmed : r.scheduler.isArmed number = true
    · have harmed' : (r.prepend turns).scheduler.isArmed number = true := harmed
      simp only [if_pos harmed, if_pos harmed']
      rw [← enqueue_prepend]
      rfl
    · have harmed' : ¬ (r.prepend turns).scheduler.isArmed number = true := harmed
      simp only [if_neg harmed, if_neg harmed']
  | enter => exact begin_prepend a turns r _
  | wake => exact begin_prepend a turns r _
  | rouse isRun task => exact enqueue_prepend turns _ r
  | resume isRun task => exact absorb_prepend a isRun _ turns r
  | retire => rfl
  | beside inputs => exact absorb_prepend a false _ turns r

theorem foldl_take_eq_ticks (a : Action ι α σ τ ε) (turns : List (Turn ι τ))
    (r : Runner ι α σ τ ε) :
    turns.foldl (take a) r = (r.prepend turns).ticks a (List.replicate turns.length .turn) := by
  induction turns generalizing r with
  | nil => rfl
  | cons t rest ih =>
    have hnext : (r.prepend (t :: rest)).takeNext a = (take a r t).prepend rest :=
      take_prepend a rest r t
    rw [List.foldl_cons, ih, List.length_cons, List.replicate_succ]
    show _ = ((r.prepend (t :: rest)).takeNext a).ticks a (List.replicate rest.length .turn)
    rw [hnext]

/-- A round gathers what is due and takes all turns that are ready then. -/
theorem round_eq_ticks (a : Action ι α σ τ ε) (r : Runner ι α σ τ ε) :
    round a r = r.ticks a (.gather :: List.replicate r.gather.ready.length .turn) := by
  show r.gather.ready.foldl (take a) { r.gather with ready := [] } = _
  rw [foldl_take_eq_ticks]
  have hsame : prepend r.gather.ready { r.gather with ready := [] } = r.gather := by
    unfold prepend
    simp only [List.append_nil]
  rw [hsame]
  rfl

/-- What outlasts each tick outlasts ticks one after another. -/
theorem ticks_induction {a : Action ι α σ τ ε} {P : Runner ι α σ τ ε → Prop}
    (htick : ∀ r t, P r → P (r.tick a t)) (ts : List Tick) {r : Runner ι α σ τ ε} (h : P r) :
    P (r.ticks a ts) := by
  induction ts generalizing r with
  | nil => exact h
  | cons t rest ih => exact ih (htick r t h)

/-- What outlasts each tick and any move of the clock outlasts rounds, as many as may be taken. -/
theorem pass_induction {a : Action ι α σ τ ε} {P : Runner ι α σ τ ε → Prop}
    (htick : ∀ r t, P r → P (r.tick a t))
    (hclock : ∀ (r : Runner ι α σ τ ε) time, P r → P { r with clock := time })
    (limit : Option Nat) (condition : Runner ι α σ τ ε → Bool) (n : Nat) {r : Runner ι α σ τ ε}
    (h : P r) : P (pass a limit condition n r) := by
  induction n generalizing r with
  | zero => exact h
  | succ n ih =>
    have htidy : P r.tidy := htick r .tidy h
    unfold pass
    by_cases hcond : condition r = true
    · rw [if_pos hcond]
      exact h
    · rw [if_neg hcond]
      simp only
      cases r.tidy.nextTime? with
      | none => exact htidy
      | some time =>
        by_cases hbeyond : (limit.any fun m => decide (m < time)) = true
        · simp only [if_pos hbeyond]
          exact htidy
        · simp only [if_neg hbeyond]
          -- A round is nothing but ticks, after the clock has gone to its time.
          rw [round_eq_ticks]
          exact ih (ticks_induction htick _ (hclock _ time htidy))

end Runner

end QuasiGrammar
