/-
  QuasiGrammar.Debounce.Basic
  ───────────────────────────
  A scheduler that turns a burst of changes into one run.  Scheduling arms the
  timer with the latest inputs and forgets the inputs before them; when the
  timer fires, a run with its inputs joins the queue.  Runs are taken from the
  queue one at a time, in the order in which they were fired.

      schedule   arms the timer, in place of an armed one
      cancel     disarms the timer; runs that were fired go on
      fire       the timer's inputs become a run at the end of the queue
      enter      the first run of the queue begins, or waits for its turn
      wake       the first run that waits begins
      finish     the run under way has come to its end
      reap       a run that has come to its end is forgotten

  Between the end of a run and the moment at which the next one wakes no run is
  under way; a run that enters then has to wait as well.  The flag `idle` is
  what others wait for.
-/

namespace QuasiGrammar

/-! ## §1. Timers and runs. -/

/-- An armed timer: the number of times that one was armed before, and the inputs. -/
structure Timer (ι : Type) where
  number : Nat
  inputs : ι
  deriving Repr

/-- How far a fired run has come. -/
inductive Phase where
  | queued
  | waiting
  | underway
  | ended
  deriving DecidableEq, Repr

/-- A run that has been fired. -/
structure Fired (ι : Type) where
  inputs : ι
  phase : Phase
  deriving Repr

/-- The state of a scheduler. -/
structure Debounce (ι : Type) where
  timer : Option (Timer ι)
  /-- How often a timer was armed. -/
  armings : Nat
  /-- The runs that have been fired and not reaped, in the order of firing. -/
  runs : List (Fired ι)
  idle : Bool
  deriving Repr

namespace Debounce

variable {ι : Type}

/-- A scheduler with nothing to do. -/
def initial : Debounce ι := ⟨none, 0, [], true⟩

/-- Whether a timer is armed. -/
def pending (d : Debounce ι) : Bool := d.timer.isSome

/-- Whether a run has been fired and not reaped. -/
def running (d : Debounce ι) : Bool := !d.runs.isEmpty

/-- Whether the timer with a number is armed. -/
def isArmed (d : Debounce ι) (number : Nat) : Bool := d.timer.any (·.number == number)

/-! ## §2. Steps. -/

/-- Sets the flag once there is nothing left to do. -/
def updateIdle (d : Debounce ι) : Debounce ι :=
  if d.pending || d.running then d else { d with idle := true }

/-- Arms the timer. -/
def schedule (d : Debounce ι) (inputs : ι) : Debounce ι :=
  { d with timer := some ⟨d.armings, inputs⟩, armings := d.armings + 1, idle := false }

/-- Disarms the timer. -/
def cancel (d : Debounce ι) : Debounce ι := updateIdle { d with timer := none }

/-- Makes the timer's inputs a run at the end of the queue. -/
def fire (d : Debounce ι) : Debounce ι :=
  match d.timer with
  | none => d
  -- The run enters later, with a turn of its own; until then it stands at the end.
  | some t => { d with timer := none, runs := d.runs ++ [⟨t.inputs, .queued⟩] }

/-- Moves the first run of one phase to another: its inputs, and the runs then. -/
def moveFirst (old new : Phase) : List (Fired ι) → Option (ι × List (Fired ι))
  | [] => none
  | r :: rest =>
      if r.phase = old then some (r.inputs, { r with phase := new } :: rest)
      else (moveFirst old new rest).map fun p => (p.1, r :: p.2)

/-- Whether a run waits for its turn. -/
def hasWaiting (d : Debounce ι) : Bool := d.runs.any (·.phase = .waiting)

/-- Whether a run that enters must wait: one is under way, or waits itself. -/
def isHeld (d : Debounce ι) : Bool := d.runs.any (·.phase = .underway) || d.hasWaiting

/-- Moves the first run of a phase to another: its inputs, if there is such a run. -/
def move (d : Debounce ι) (old new : Phase) : Option ι × Debounce ι :=
  match moveFirst old new d.runs with
  | none => (none, d)
  | some (x, runs) => (some x, { d with runs := runs })

/-- Lets the first run of the queue begin, unless it has to wait: its inputs, if it begins. -/
def enter (d : Debounce ι) : Option ι × Debounce ι :=
  if d.isHeld then (none, (d.move .queued .waiting).2) else d.move .queued .underway

/-- Lets the first run that waits begin: its inputs. -/
def wake (d : Debounce ι) : Option ι × Debounce ι := d.move .waiting .underway

/-- Ends the run that is under way. -/
def finish (d : Debounce ι) : Debounce ι :=
  { d with
    -- At most one run is under way; it stays in its place until it is reaped.
    runs := d.runs.map fun r => if r.phase = .underway then { r with phase := .ended } else r }

/-- Forgets the first run that has come to its end. -/
def reap (d : Debounce ι) : Debounce ι :=
  updateIdle { d with runs := d.runs.eraseP (·.phase = .ended) }

/-! ## §3. What the steps do to timer, runs and flag. -/

@[simp]
theorem pending_schedule (d : Debounce ι) (x : ι) : (d.schedule x).pending = true := rfl

@[simp]
theorem running_schedule (d : Debounce ι) (x : ι) : (d.schedule x).running = d.running := rfl

@[simp]
theorem pending_updateIdle (d : Debounce ι) : d.updateIdle.pending = d.pending := by
  unfold updateIdle; split <;> rfl

@[simp]
theorem running_updateIdle (d : Debounce ι) : d.updateIdle.running = d.running := by
  unfold updateIdle; split <;> rfl

@[simp]
theorem pending_cancel (d : Debounce ι) : d.cancel.pending = false := by
  simp [cancel]; rfl

@[simp]
theorem running_cancel (d : Debounce ι) : d.cancel.running = d.running := by
  simp [cancel]; rfl

@[simp]
theorem pending_fire (d : Debounce ι) : d.fire.pending = false := by
  unfold fire
  cases h : d.timer with
  | none => simp [pending, h]
  | some t => rfl

/-- A timer that fires leaves a run behind. -/
theorem running_fire {d : Debounce ι} (h : d.pending = true) : d.fire.running = true := by
  unfold fire
  cases ht : d.timer with
  | none => simp [pending, ht] at h
  | some t => simp [running]

/-- Moving a run to another phase changes nothing but how far that run has come. -/
theorem inputs_moveFirst {old new : Phase} {runs rest : List (Fired ι)} {x : ι}
    (h : moveFirst old new runs = some (x, rest)) :
    rest.map (·.inputs) = runs.map (·.inputs) := by
  -- Either the first run moves, or one behind it does and the first one stays.
  induction runs generalizing rest with
  | nil => cases h
  | cons r runs ih =>
    simp only [moveFirst] at h
    split at h
    · cases h; rfl
    · obtain ⟨p, hp, he⟩ := Option.map_eq_some_iff.1 h
      cases he
      simp [ih hp]

/-- No run is lost or added by a move. -/
theorem inputs_move (d : Debounce ι) (old new : Phase) :
    (d.move old new).2.runs.map (·.inputs) = d.runs.map (·.inputs) := by
  unfold move
  split
  · rfl
  · next h => exact inputs_moveFirst h

end Debounce

end QuasiGrammar
