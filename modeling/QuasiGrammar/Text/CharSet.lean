/-
  QuasiGrammar.Text.CharSet
  ─────────────────────────
  Sets of code points, each given by the ascending list of points at which
  membership changes.  A point belongs to the set when an odd number of
  changes lie at or below it, so a table of `n` ranges is a list of `2 n`
  numbers and a lookup stops at the first larger entry.
-/

namespace QuasiGrammar.Text

/-- A set of code points, as the ascending points where membership changes. -/
structure CharSet where
  /-- The points at which membership changes, starting from "outside". -/
  flips : List Nat

/-- Membership of a code point. -/
def CharSet.contains (s : CharSet) (c : Char) : Bool :=
  (s.flips.takeWhile (· ≤ c.toNat)).length % 2 == 1

theorem CharSet.contains_empty (c : Char) : (CharSet.mk []).contains c = false := rfl

end QuasiGrammar.Text
