import QuasiGrammar.Text.Digit
import QuasiGrammar.Text.Split

/-
  QuasiGrammar.Text.NameTable.Basic
  ─────────────────────────────────
  Tables of the names of characters.  Consecutive characters make up a run, in
  which an entry tells only what a name does not share with the one before it:
  the number of words that it has in common with its beginning, the number it
  has in common with its end, each as one digit of base thirty-six, and the
  words between them.
-/

namespace QuasiGrammar.Text

/-- The names of consecutive characters, from a first one on; in each line the entries stand between
semicolons. -/
structure NameRun where
  first : Nat
  lines : List String
  deriving Repr

/-- The words of the name of an entry, by those of the name before it. -/
def nextName (before : List (List Char)) : List Char → List (List Char)
  | k :: m :: middle =>
      before.take ((asciiDigit? k).getD 0)
        ++ (if middle.isEmpty then [] else splitAll ' ' middle)
        ++ before.drop (before.length - (asciiDigit? m).getD 0)
  | _ => []

/-- The place of a name among entries that are numbered from a given number on. -/
def placeFrom? (name before : List (List Char)) (n : Nat) : List (List Char) → Option Nat
  | [] => none
  | entry :: rest =>
      let words := nextName before entry
      if words = name then some n else placeFrom? name words (n + 1) rest

/-- The entries of a run. -/
def NameRun.entries (run : NameRun) : List (List Char) :=
  run.lines.flatMap fun line => splitAll ';' line.toList

/-- The code point that has a name, given by its words, within a run. -/
def NameRun.find? (run : NameRun) (name : List (List Char)) : Option Nat :=
  placeFrom? name [] run.first run.entries

theorem placeFrom?_bounds {name before : List (List Char)} {n c : Nat}
    {entries : List (List Char)} (h : placeFrom? name before n entries = some c) :
    n ≤ c ∧ c < n + entries.length := by
  induction entries generalizing before n with
  | nil => simp [placeFrom?] at h
  | cons entry rest ih =>
    simp only [placeFrom?] at h
    split at h
    · cases h
      simp
    · have := ih h
      simp only [List.length_cons]
      omega

/-- A run names only characters from its first one on, one for each entry. -/
theorem NameRun.find?_bounds {run : NameRun} {name : List (List Char)} {c : Nat}
    (h : run.find? name = some c) : run.first ≤ c ∧ c < run.first + run.entries.length :=
  placeFrom?_bounds h

end QuasiGrammar.Text
