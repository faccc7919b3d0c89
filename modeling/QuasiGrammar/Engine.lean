import QuasiGrammar.Failure

/-
  QuasiGrammar.Engine
  ───────────────────
  The engine of the host judges whether a regular expression is well formed.
  A host may have none, and then no expression is looked at.
-/

namespace QuasiGrammar

/-- What an engine says about an expression. -/
inductive Verdict where
  /-- There was no engine to ask. -/
  | unchecked
  | accepted
  /-- The expression is refused, for the reason that the engine gives. -/
  | rejected (detail : String)
  /-- The engine broke down on the expression. -/
  | failed (failure : Failure)
  deriving DecidableEq, Repr

/-- An engine: its verdict on every expression. -/
abbrev Engine := String → Verdict

namespace Engine

/-- The engine of a host that has none. -/
def absent : Engine := fun _ => .unchecked

/-- The engine of a host that builds a scanner from a list of expressions: the scanner's failure,
of whatever kind, refuses the expression. -/
def ofScanner (build : List String → Except Failure Unit) : Engine := fun source =>
  match build [source] with
  | .ok () => .accepted
  | .error f => .rejected f.message

end Engine

end QuasiGrammar
