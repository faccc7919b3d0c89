import QuasiGrammar.Debounce.Runner
import QuasiGrammar.Publish.Program
import QuasiGrammar.Total

/-
  QuasiGrammar.Debounce.Job
  ─────────────────────────
  Jobs of known length and outcome, as runs of a scheduler: a job is seen to
  start, makes its pauses one after the other, and then is seen to end, or
  fails.
-/

namespace QuasiGrammar

/-- A job: what it is known by, the pauses that it has still to make, in milliseconds, and its
failure, if it fails. -/
structure Job (ι : Type) where
  input : ι
  pauses : List Nat
  failure : Option Failure

/-- What can be seen of jobs. -/
inductive JobEvent (ι : Type) where
  | started (input : ι)
  | ended (input : ι)
  | noticed (n : Notice)

namespace Job

variable {ι : Type}

/-- How long a job takes. -/
def duration (j : Job ι) : Nat := total id j.pauses

/-- The end of a job. -/
def closing (j : Job ι) : Stretch Unit Unit (Job ι) (JobEvent ι) :=
  match j.failure with
  | none => ⟨(), [.ended j.input], .ended (.ok ())⟩
  | some f => ⟨(), [], .ended (.error f)⟩

/-- A job up to its next pause, or to its end. -/
def stretch (j : Job ι) : Stretch Unit Unit (Job ι) (JobEvent ι) :=
  match j.pauses with
  | [] => j.closing
  | ms :: rest => ⟨(), [], .paused ms { j with pauses := rest }⟩

/-- The beginning of a job. -/
def opening (j : Job ι) : Stretch Unit Unit (Job ι) (JobEvent ι) :=
  { j.stretch with events := .started j.input :: j.stretch.events }

/-- The warning of a failure, by a scheduler that speaks to the user under a name. -/
def warning (source : String) (f : Failure) : JobEvent ι := .noticed ⟨.warning, source, f.message⟩

/-- Jobs as runs of a scheduler that speaks to the user under a name. -/
def action (source : String) : Action (Job ι) Unit Unit (Job ι) (JobEvent ι) where
  start j _ := j.opening
  resume j _ := j.stretch
  warn := warning source

/-- The turns of a job from its beginning: two for each pause, one that wakes the next job, and one
that retires. -/
def turns (j : Job ι) : Nat := 2 * j.pauses.length + 2

end Job

/-- A scheduler of jobs. -/
abbrev JobRunner (ι : Type) := Runner (Job ι) Unit Unit (Job ι) (JobEvent ι)

namespace JobRunner

variable {ι : Type}

/-- A turn and those that come of it, without those of jobs that have been fired. -/
def turnsOf : Turn (Job ι) (Job ι) → Nat
  | .rouse _ j => j.turns + 2
  | .resume _ j | .beside j => j.turns + 1
  | _ => 1

/-- The turns of a run that has not begun. -/
def turnsAhead (r : Fired (Job ι)) : Nat :=
  match r.phase with
  | .queued | .waiting => r.inputs.turns
  | .underway | .ended => 0

/-- A number of rounds in which all jobs come to their end: in each of them one turn at least is
taken. -/
def rounds (r : JobRunner ι) : Nat :=
  total turnsOf r.ready + total (turnsOf ·.item) r.agenda.toList +
    total turnsAhead r.scheduler.runs + total (·.inputs.turns + 1) r.scheduler.timer.toList

end JobRunner

end QuasiGrammar
