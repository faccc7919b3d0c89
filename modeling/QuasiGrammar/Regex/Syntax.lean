/-
  QuasiGrammar.Regex.Syntax
  ─────────────────────────
  The syntax of regular expressions, the numbers of their groups, and the
  widths of what they match.  A sequence is a list of items; groups are
  numbered by their opening parentheses from one on.
-/

namespace QuasiGrammar.Regex

/-- A class of characters that a letter stands for. -/
inductive CharClass where
  | digit
  | space
  | word
  deriving DecidableEq, Repr

/-- A member of a set: a code point, a range of them, or a class or its complement. -/
inductive Member where
  | single (c : Nat)
  | range (low high : Nat)
  | cls (k : CharClass) (complement : Bool)
  deriving DecidableEq, Repr

/-- A place in the text that an item can require. -/
inductive Anchor where
  | lineStart
  | lineEnd
  | textStart
  | textEnd
  | wordEdge
  | notWordEdge
  deriving DecidableEq, Repr

/-- How a repetition chooses the number of its turns: many first, few first, or many and no
other. -/
inductive Greed where
  | greedy
  | reluctant
  | possessive
  deriving DecidableEq, Repr

/-- An item of a sequence. -/
inductive Item where
  | literal (c : Nat)
  /-- Any character but a line feed. -/
  | any
  | set (negated : Bool) (members : List Member)
  | anchor (a : Anchor)
  /-- A group with its number, if it captures, and the flags that it turns on and off. -/
  | group (index : Option Nat) (on off : List Char) (body : List Item)
  | atomic (body : List Item)
  /-- A repetition; without an upper bound it goes on. -/
  | repetition (greed : Greed) (low : Nat) (high : Option Nat) (body : List Item)
  | branch (alternatives : List (List Item))
  | look (ahead negated : Bool) (body : List Item)
  /-- The text that a group has matched, and whether the group was told by its name. -/
  | reference (index : Nat) (named : Bool)
  /-- One of two sequences, as a group has matched or not, and whether the group was told by its
  name. -/
  | conditional (index : Nat) (named : Bool) (yes no : List Item)
  deriving Repr, Inhabited

/-- Whether the item is an anchor. -/
def Item.isAnchor : Item → Bool
  | .anchor _ => true
  | _ => false

/-- Whether the item is a repetition. -/
def Item.isRepetition : Item → Bool
  | .repetition .. => true
  | _ => false

/-! ## §1. Widths. -/

/-- The least repeat count that is too large. -/
def countLimit : Nat := Nat.pow 2 32 - 1

/-- The number that stands for "no greatest width". -/
def unbounded : Nat := countLimit

/-- The least and the greatest number of characters that are matched. -/
structure Width where
  low : Nat
  high : Nat
  deriving DecidableEq, Repr, Inhabited

namespace Width

/-- The width of a sequence of two parts. -/
def seq (v w : Width) : Width := ⟨v.low + w.low, v.high + w.high⟩

/-- The width of a choice between two parts. -/
def choice (v w : Width) : Width := ⟨min v.low w.low, max v.high w.high⟩

/-- Widths are counted up to the number that stands for "no upper bound", which a least width never
reaches: so a width that is too great to be counted is no fixed one. -/
def capped (w : Width) : Width := ⟨min w.low (unbounded - 1), min w.high unbounded⟩

/-- The width of a number of turns; without an upper bound it has no greatest width, unless there is
nothing to match. -/
def times (w : Width) (low : Nat) (high : Option Nat) : Width :=
  ⟨w.low * low,
    match high with
    | some n => w.high * n
    | none => if w.high = 0 then 0 else unbounded⟩

/-- Whether all matches are equally long. -/
def isFixed (w : Width) : Bool := w.low == w.high

end Width

mutual

/-- The width of an item, for given widths of the groups. -/
def Item.width (groups : Nat → Width) : Item → Width
  | .literal _ | .any | .set _ _ => ⟨1, 1⟩
  | .anchor _ | .look _ _ _ => ⟨0, 0⟩
  | .group _ _ _ body | .atomic body => (sumOfWidths groups body).capped
  | .repetition _ low high body => (sumOfWidths groups body).capped.times low high
  | .branch alternatives => choiceOfWidths groups alternatives
  | .reference index _ => groups index
  | .conditional _ _ yes no =>
      (sumOfWidths groups yes).capped.choice (sumOfWidths groups no).capped

/-- The sum of the widths of items. -/
def sumOfWidths (groups : Nat → Width) : List Item → Width
  | [] => ⟨0, 0⟩
  | i :: rest => (i.width groups).seq (sumOfWidths groups rest)

/-- The width of a choice between sequences. -/
def choiceOfWidths (groups : Nat → Width) : List (List Item) → Width
  | [] => ⟨unbounded - 1, 0⟩
  | s :: rest => (sumOfWidths groups s).capped.choice (choiceOfWidths groups rest)

end

/-- The width of a sequence. -/
def widthOf (groups : Nat → Width) (items : List Item) : Width :=
  (sumOfWidths groups items).capped

end QuasiGrammar.Regex
