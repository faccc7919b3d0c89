import QuasiGrammar.Failure

/-
  QuasiGrammar.Yaml.Cursor
  ────────────────────────
  A cursor stands before a character of a text and knows its line and column.
  A text is read only if all its characters are printable, a mark of the byte
  order included.
-/

namespace QuasiGrammar.Yaml

/-- Why a text is refused. -/
inductive Fault where
  /-- The text is no YAML. -/
  | malformed
  /-- A scalar of the text stands for no value. -/
  | defect (d : Defect)
  /-- The text spells a half of a surrogate pair, which no text of characters holds.  What becomes of
  it is left aside. -/
  | strayHalf
  deriving DecidableEq, Repr

/-- A step of reading. -/
abbrev Step (α : Type) := Except Fault α

/-- Refuses the text. -/
def refuse {α : Type} : Step α := .error .malformed

/-! ## §1. Characters. -/

/-- Whether a character may stand in a text. -/
def isPrintable (c : Char) : Bool :=
  let n := c.toNat
  n == 0x09 || n == 0x0a || n == 0x0d || (0x20 ≤ n && n ≤ 0x7e) || n == 0x85 ||
    (0xa0 ≤ n && n ≤ 0xd7ff) || (0xe000 ≤ n && n ≤ 0xfffd) || 0x10000 ≤ n

/-- Whether a character ends a line. -/
def isBreak (c : Char) : Bool := c == '\n' || c == '\u0085' || c == '\u2028' || c == '\u2029'

/-- Whether a line ends before a character, or before the end of the text. -/
def endsLine : Option Char → Bool
  | none => true
  | some c => isBreak c

/-- Whether a blank or the end of a line comes next. -/
def endsField : Option Char → Bool
  | none => true
  | some c => c == ' ' || isBreak c

/-- Whether a blank, a tab or the end of a line comes next. -/
def endsWord : Option Char → Bool
  | none => true
  | some c => c == ' ' || c == '\t' || isBreak c

/-- The text that a line break stands for: a line feed, but for the separators of lines and
paragraphs, which are kept. -/
def breakText (c : Char) : Char := if c == '\u0085' then '\n' else c

/-- The mark of the byte order. -/
def byteOrderMark : Char := '\uFEFF'

/-! ## §2. Cursors. -/

/-- A place in a text: what follows, the number of characters before it, its line and column, both
counted from zero, and the number of characters of the whole text. -/
structure Cursor where
  rest : List Char
  index : Nat
  line : Nat
  column : Nat
  size : Nat
  deriving Repr, Inhabited

namespace Cursor

/-- The place before a text. -/
def start (cs : List Char) : Cursor := ⟨cs, 0, 0, 0, cs.length⟩

/-- A number of characters that reaches beyond the end of the text. -/
def reach (c : Cursor) : Nat := c.size + 1

/-- The next character. -/
def peek (c : Cursor) : Option Char := c.rest.head?

/-- The character after the next one. -/
def peekSecond (c : Cursor) : Option Char := (c.rest.drop 1).head?

/-- The place after the next character. -/
def next (c : Cursor) : Cursor :=
  match c.rest with
  | [] => c
  | x :: rest =>
      if isBreak x then ⟨rest, c.index + 1, c.line + 1, 0, c.size⟩
      else if x == byteOrderMark then ⟨rest, c.index + 1, c.line, c.column, c.size⟩
      else ⟨rest, c.index + 1, c.line, c.column + 1, c.size⟩

/-- The place some characters further on. -/
def skip (c : Cursor) : Nat → Cursor
  | 0 => c
  | n + 1 => c.next.skip n

/-- The characters up to the first that does not satisfy a condition, and the place before it. -/
def span (c : Cursor) (p : Char → Bool) : List Char × Cursor :=
  let cs := c.rest.takeWhile p
  (cs, c.skip cs.length)

/-- The place after characters that satisfy a condition. -/
def dropWhile (c : Cursor) (p : Char → Bool) : Cursor := (c.span p).2

/-- The place after blanks. -/
def dropBlanks (c : Cursor) : Cursor := c.dropWhile (· == ' ')

/-- The place at the end of the line. -/
def dropLine (c : Cursor) : Cursor := c.dropWhile (!isBreak ·)

/-- The text of a line break that comes next, and the place after it. -/
def lineBreak? (c : Cursor) : Option (Char × Cursor) :=
  match c.peek with
  | some x => if isBreak x then some (breakText x, c.next) else none
  | none => none

/-- Whether three equal characters and the end of a word come next. -/
def atMarker (c : Cursor) (x : Char) : Bool :=
  c.rest.take 3 == [x, x, x] && endsWord (c.rest.drop 3).head?

/-- Whether a mark between documents comes next. -/
def atSeparator (c : Cursor) : Bool := c.atMarker '-' || c.atMarker '.'

/-- The place at the end of the line, when nothing but blanks and a comment is left of it. -/
def dropComment (c : Cursor) : Step Cursor :=
  let c := c.dropBlanks
  let c := if c.peek = some '#' then c.dropLine else c
  if endsLine c.peek then .ok c.next else refuse

end Cursor

end QuasiGrammar.Yaml
