import QuasiGrammar.Debounce.Line
import QuasiGrammar.Debounce.Moves

/-
  QuasiGrammar.Debounce.Records
  ─────────────────────────────
  A record of each run.  What is seen of a scheduler is one log, in which the
  events of the runs stand between those of whatever else happens.  The records
  tell the runs apart: each turn that works for a run adds what is seen then to
  the record of that run (`noted`), and to no other.

  Nothing that a scheduler does looks at records.
-/

namespace QuasiGrammar

variable {ι α σ τ ε : Type}

/-! ## §1. Pieces of work. -/

/-- The result of a stretch of work, if the work has ended. -/
def Stop.result? : Stop α τ → Option (Except Failure α)
  | .ended r => some r
  | .paused _ _ => none

/-- What is left of the work after a stretch, if it has not ended. -/
def Stop.task? : Stop α τ → Option τ
  | .ended _ => none
  | .paused _ task => some task

/-- What is seen of a stretch of a run: the warning of its failure belongs to the run, if there is
one. -/
def Action.seen (a : Action ι α σ τ ε) (s : Stretch α σ τ ε) : List ε :=
  match s.stop with
  | .ended r => s.events ++ Runner.warningOf a r
  | .paused _ _ => s.events

/-- A piece of work on a run: the run begins with its inputs, or it goes on. -/
inductive Piece (ι α σ τ ε : Type) where
  | begins (inputs : ι) (s : Stretch α σ τ ε)
  | goesOn (s : Stretch α σ τ ε)

/-- The piece of work that the next turn does, if it works on a run. -/
def Runner.piece? (a : Action ι α σ τ ε) (r : Runner ι α σ τ ε) : Option (Piece ι α σ τ ε) :=
  match r.ready with
  | .enter :: _ => r.scheduler.enter.1.map fun x => .begins x (a.start x r.state)
  | .wake :: _ => r.scheduler.wake.1.map fun x => .begins x (a.start x r.state)
  | .resume true task :: _ => some (.goesOn (a.resume task r.state))
  | _ => none

/-! ## §2. Records. -/

/-- What is known of a run: its inputs, what has been seen of it, and its result, once it has
ended. -/
structure Record (ι α ε : Type) where
  inputs : ι
  events : List ε
  result : Option (Except Failure α)

namespace Record

/-- The record of a run that begins. -/
def opened (a : Action ι α σ τ ε) (inputs : ι) (s : Stretch α σ τ ε) : Record ι α ε :=
  ⟨inputs, a.seen s, s.stop.result?⟩

/-- The record of a run that goes on. -/
def continued (a : Action ι α σ τ ε) (s : Stretch α σ τ ε) (run : Record ι α ε) : Record ι α ε :=
  ⟨run.inputs, run.events ++ a.seen s, s.stop.result?⟩

end Record

/-- The records once a piece of work is done: a run that begins has a new one, and the run that goes
on is the last that has begun. -/
def noted (a : Action ι α σ τ ε) (runs : List (Record ι α ε)) :
    Option (Piece ι α σ τ ε) → List (Record ι α ε)
  | none => runs
  | some (.begins inputs s) => runs ++ [.opened a inputs s]
  | some (.goesOn s) => runs.dropLast ++ (runs.getLast?.map (Record.continued a s)).toList

/-- The records after a tick. -/
def Runner.notedBy (a : Action ι α σ τ ε) (r : Runner ι α σ τ ε) (runs : List (Record ι α ε)) :
    Tick → List (Record ι α ε)
  | .turn => noted a runs (r.piece? a)
  | _ => runs

/-! ## §3. Runs. -/

/-- A run whose record is right: it began on some state, and went on after each pause on whatever
state there was by then.  What is left of it is nothing once it has ended. -/
inductive Action.Ran (a : Action ι α σ τ ε) : Record ι α ε → Option τ → Prop
  | begins (inputs : ι) (state : σ) :
      Ran a (.opened a inputs (a.start inputs state)) (a.start inputs state).stop.task?
  | goesOn {run : Record ι α ε} {task : τ} (h : Ran a run (some task)) (state : σ) :
      Ran a (run.continued a (a.resume task state)) (a.resume task state).stop.task?

/-- A piece of work on the run of a line that is served, or on one that begins then. -/
inductive Line.Works (a : Action ι α σ τ ε) :
    Line ι σ τ ε → Option (Piece ι α σ τ ε) → Line ι σ τ ε → Prop
  | idle {l l' : Line ι σ τ ε} (hcurrent : l'.current = l.current) (hbegun : l'.begun = l.begun)
      (hlog : l'.log = l.log) : Works a l none l'
  | begins {l : Line ι σ τ ε} (inputs : ι) (rest : List ι) (hfree : l.current = none) :
      Works a l (some (.begins inputs (a.start inputs l.state))) (l.begin a inputs rest)
  | goesOn {l : Line ι σ τ ε} {p : Paused ι τ} (hcurrent : l.current = some p) :
      Works a l (some (.goesOn (a.resume p.task l.state))) (l.resume a p)

end QuasiGrammar
