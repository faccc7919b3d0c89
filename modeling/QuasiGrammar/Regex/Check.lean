import QuasiGrammar.Engine
import QuasiGrammar.Regex.Reader

/-
  QuasiGrammar.Regex.Check
  ────────────────────────
  An expression that reads well is still refused if a lookbehind in it can
  match texts of different lengths, or if it is a template, which knows no
  repetitions.  The flaw that is met first, outer items before those inside
  them, decides.
-/

namespace QuasiGrammar.Regex

/-- The name of a repetition as an operator. -/
def Greed.operator : Greed → String
  | .greedy => "MAX_REPEAT"
  | .reluctant => "MIN_REPEAT"
  | .possessive => "POSSESSIVE_REPEAT"

/-- The flaw of a lookbehind of some width. -/
def lookbehindFlaw? (w : Width) : Option Cause :=
  if w.isFixed then none else some .variableLookbehind

/-- The greatest width of a lookbehind that an engine carries out.  This is a limit of its patch
levels 0 to 6; from the next one on, wider lookbehinds are accepted as well. -/
def maxCarried : Nat := Nat.pow 2 31 - 1

mutual

/-- The first flaw of an item, for given widths of the groups. -/
def Item.flaw? (groups : Nat → Width) (template : Bool) : Item → Option Cause
  | .literal _ | .any | .set _ _ | .anchor _ | .reference _ _ => none
  | .group _ _ _ body | .atomic body => flawIn? groups template body
  | .repetition greed _ _ body =>
      if template then some (.templateOperator greed.operator)
      else flawIn? groups template body
  | .branch alternatives => flawAmong? groups template alternatives
  | .look true _ body => flawIn? groups template body
  | .look false _ body =>
      match lookbehindFlaw? (widthOf groups body) with
      | some cause => some cause
      | none => flawIn? groups template body
  | .conditional _ _ yes no =>
      match flawIn? groups template yes with
      | some cause => some cause
      | none => flawIn? groups template no

/-- The first flaw in a sequence. -/
def flawIn? (groups : Nat → Width) (template : Bool) : List Item → Option Cause
  | [] => none
  | i :: rest =>
      match i.flaw? groups template with
      | some cause => some cause
      | none => flawIn? groups template rest

/-- The first flaw in a choice between sequences. -/
def flawAmong? (groups : Nat → Width) (template : Bool) : List (List Item) → Option Cause
  | [] => none
  | s :: rest =>
      match flawIn? groups template s with
      | some cause => some cause
      | none => flawAmong? groups template rest

end

mutual

/-- Whether an item holds a lookbehind that no engine of the patch levels 0 to 6 carries out. -/
def Item.looksTooFar (groups : Nat → Width) : Item → Bool
  | .literal _ | .any | .set _ _ | .anchor _ | .reference _ _ => false
  | .group _ _ _ body | .atomic body | .repetition _ _ _ body | .look true _ body =>
      anyLooksTooFar groups body
  | .look false _ body =>
      maxCarried < (widthOf groups body).low || anyLooksTooFar groups body
  | .branch alternatives => anyAmongLooksTooFar groups alternatives
  | .conditional _ _ yes no => anyLooksTooFar groups yes || anyLooksTooFar groups no

/-- Whether a sequence holds a lookbehind that no engine carries out. -/
def anyLooksTooFar (groups : Nat → Width) : List Item → Bool
  | [] => false
  | i :: rest => i.looksTooFar groups || anyLooksTooFar groups rest

/-- Whether a choice holds a lookbehind that no engine carries out. -/
def anyAmongLooksTooFar (groups : Nat → Width) : List (List Item) → Bool
  | [] => false
  | s :: rest => anyLooksTooFar groups s || anyAmongLooksTooFar groups rest

end

/-- The first flaw of an expression. -/
def Expression.flaw? (e : Expression) : Option Cause :=
  flawIn? e.groupWidth (e.flags.contains 't') e.items

/-- Reads an expression that has no flaw and that an engine carries out. -/
def read (source : List Char) : Except Refused Expression :=
  match parse source with
  | .error r => .error r
  | .ok e =>
      match e.flaw? with
      | some cause => .error (.fault ⟨cause, none⟩)
      | none =>
          if anyLooksTooFar e.groupWidth e.items then .error (.defect .lookbehindTooLong)
          else .ok e

/-- The engine that reads the expressions itself. -/
def engine : Engine := fun source =>
  match read source.toList with
  | .ok _ => .accepted
  | .error (.fault f) => .rejected (f.message source.toList)
  | .error (.defect d) => .failed (.defect d)

theorem engine_eq_accepted_iff {source : String} :
    engine source = .accepted ↔ ∃ e, read source.toList = .ok e := by
  unfold engine
  cases read source.toList with
  | ok e => simp
  | error r => cases r <;> simp

end QuasiGrammar.Regex
