import QuasiGrammar.Text.Digit
import QuasiGrammar.Yaml.Cursor

/-
  QuasiGrammar.Yaml.Scalar
  ────────────────────────
  The texts of scalars in their five styles: between single or double quotes,
  plain, and as literal or folded blocks.

  Where a text goes on over several lines outside a literal block, its lines
  are folded: one line break becomes a blank, of several the first is dropped.
-/

namespace QuasiGrammar.Yaml

open Text

/-! ## §1. Folding. -/

/-- What a line break and the breaks of the empty lines after it stand for. -/
def folded (first : Char) (breaks : List Char) : List Char :=
  if first ≠ '\n' then first :: breaks
  else if breaks = [] then [' ']
  else breaks

/-! ## §2. Quoted scalars. -/

/-- The line breaks that come next in a quoted scalar, with the white space of their lines.  A mark
between documents may not stand in a quoted scalar. -/
def quotedBreaks : Nat → Cursor → Step (List Char × Cursor)
  | 0, c => .ok ([], c)
  | fuel + 1, c =>
      if c.atSeparator then refuse
      else
        let c := c.dropWhile fun x => x == ' ' || x == '\t'
        match c.lineBreak? with
        | none => .ok ([], c)
        | some (b, c) => do
            let (bs, c) ← quotedBreaks fuel c
            pure (b :: bs, c)

/-- White space in a quoted scalar: it is kept inside a line and folded at the end of one. -/
def quotedSpace (c : Cursor) : Step (List Char × Cursor) :=
  let (blanks, c) := c.span fun x => x == ' ' || x == '\t'
  match c.lineBreak? with
  | some (b, c) => do
      let (bs, c) ← quotedBreaks c.reach c
      pure (folded b bs, c)
  | none => if c.peek.isNone then refuse else .ok (blanks, c)

/-- The character that a letter or sign after a backslash stands for. -/
def escaped? : Char → Option Char
  | '0' => some '\x00'
  | 'a' => some '\x07'
  | 'b' => some '\x08'
  | 't' => some '\t'
  | '\t' => some '\t'
  | 'n' => some '\n'
  | 'v' => some '\x0b'
  | 'f' => some '\x0c'
  | 'r' => some '\r'
  | 'e' => some '\x1b'
  | ' ' => some ' '
  | '"' => some '"'
  | '\\' => some '\\'
  | '/' => some '/'
  | 'N' => some '\u0085'
  | '_' => some '\u00a0'
  | 'L' => some '\u2028'
  | 'P' => some '\u2029'
  | _ => none

/-- The number of hexadecimal digits after a letter that spells a code point. -/
def codeDigits? : Char → Option Nat
  | 'x' => some 2
  | 'u' => some 4
  | 'U' => some 8
  | _ => none

/-- The character of a code point.  With a half of a surrogate pair the reading breaks off. -/
def codeChar (n : Nat) : Step Char :=
  if 0x7fffffff < n then .error (.defect .codePointTooLarge)
  else if 0x10ffff < n then .error (.defect .noCharacter)
  else if 0xd800 ≤ n ∧ n < 0xe000 then .error .strayHalf
  else .ok (Char.ofNat n)

/-- What an escape stands for, after its backslash. -/
def quotedEscape (c : Cursor) : Step (List Char × Cursor) :=
  match c.peek with
  | none => refuse
  | some x =>
      match escaped? x, codeDigits? x with
      | some y, _ => .ok ([y], c.next)
      | none, some count =>
          let c := c.next
          let ds := c.rest.take count
          if ds.length < count || !ds.all isHexDigit then refuse
          else do
            let y ← codeChar (ofDigits 16 ds)
            pure ([y], c.skip count)
      | none, none =>
          if isBreak x then quotedBreaks c.reach c.next else refuse

/-- The text of a quoted scalar, after its opening quote. -/
def quotedText (double : Bool) : Nat → Cursor → Step (List Char × Cursor)
  | 0, _ => refuse
  | fuel + 1, c =>
      match c.peek with
      | none => refuse
      | some x =>
          if x == ' ' || x == '\t' || isBreak x then do
            let (ys, c) ← quotedSpace c
            let (zs, c) ← quotedText double fuel c
            pure (ys ++ zs, c)
          else if double && x == '"' then .ok ([], c.next)
          else if double && x == '\\' then do
            let (ys, c) ← quotedEscape c.next
            let (zs, c) ← quotedText double fuel c
            pure (ys ++ zs, c)
          else if !double && x == '\'' then
            if c.peekSecond = some '\'' then do
              let (zs, c) ← quotedText double fuel (c.skip 2)
              pure ('\'' :: zs, c)
            else .ok ([], c.next)
          else do
            let (zs, c) ← quotedText double fuel c.next
            pure (x :: zs, c)

/-- A quoted scalar, from its opening quote on. -/
def quotedScalar (double : Bool) (c : Cursor) : Step (List Char × Cursor) :=
  quotedText double c.reach c.next

/-! ## §3. Plain scalars. -/

/-- The signs that end a plain scalar inside a flow collection. -/
def flowSigns : List Char := [',', '?', '[', ']', '\x7b', '\x7d']

/-- The signs before which a colon ends a plain scalar inside a flow collection. -/
def colonSigns : List Char := [',', '[', ']', '\x7b', '\x7d']

/-- Whether a word of a plain scalar ends before a text. -/
def plainEnds (flow : Bool) : List Char → Bool
  | [] => true
  | x :: rest =>
      endsWord (some x)
        || (x == ':' && (endsWord rest.head? || (flow && rest.head?.any colonSigns.contains)))
        || (flow && flowSigns.contains x)

/-- The word of a plain scalar that comes next. -/
def plainWord (flow : Bool) : List Char → List Char
  | [] => []
  | x :: rest => if plainEnds flow (x :: rest) then [] else x :: plainWord flow rest

/-- Line breaks and blanks after the first line break in a plain scalar: the breaks, or `none` when
a mark between documents follows one. -/
def plainBreaks : Nat → Cursor → Option (List Char) × Cursor
  | 0, c => (some [], c)
  | fuel + 1, c =>
      if c.peek = some ' ' then plainBreaks fuel c.next
      else
        match c.lineBreak? with
        | none => (some [], c)
        | some (b, c) =>
            if c.atSeparator then (none, c)
            else
              let (bs, c) := plainBreaks fuel c
              (bs.map (b :: ·), c)

/-- White space in a plain scalar: what it stands for, whether it breaks the line, and the place
after it. -/
def plainSpace (c : Cursor) : List Char × Bool × Cursor :=
  let (blanks, c) := c.span (· == ' ')
  match c.lineBreak? with
  | none => (blanks, false, c)
  | some (b, c) =>
      if c.atSeparator then ([], true, c)
      else
        match plainBreaks c.reach c with
        | (none, c) => ([], true, c)
        | (some bs, c) => (folded b bs, true, c)

/-- A plain scalar: its text, whether a line break follows it, and the place after it.  Outside
flow collections it goes on only in lines that are indented deeply enough. -/
def plainText (flow : Bool) (indent : Int) : Nat → Cursor → List Char × Bool × Cursor
  | 0, c => ([], false, c)
  | fuel + 1, c =>
      let word := plainWord flow c.rest
      let (space, broken, after) := plainSpace (c.skip word.length)
      if space.isEmpty || after.peek = some '#' || (!flow && (after.column : Int) < indent) then
        (word, broken, after)
      else if (plainWord flow after.rest).isEmpty then (word, broken, after)
      else
        let (more, broken, last) := plainText flow indent fuel after
        (word ++ space ++ more, broken, last)

/-- A plain scalar. -/
def plainScalar (flow : Bool) (indent : Int) (c : Cursor) : List Char × Bool × Cursor :=
  plainText flow indent c.reach c

/-! ## §4. Block scalars. -/

/-- What becomes of the line breaks at the end of a block. -/
inductive Chomping where
  /-- One is kept. -/
  | clip
  /-- None is kept. -/
  | strip
  /-- All are kept. -/
  | keep
  deriving DecidableEq, Repr

/-- The chomping that a sign asks for. -/
def chomping? : Option Char → Option Chomping
  | some '+' => some .keep
  | some '-' => some .strip
  | _ => none

/-- The depth that a digit asks for. -/
def depth? : Option Char → Option Nat
  | some x => if x.isDigit then some (x.toNat - '0'.toNat) else none
  | none => none

/-- The signs after the sign of a block, in either order: how it is chomped, and by how much it is
indented, if that is said. -/
def blockSigns (c : Cursor) : Step (Chomping × Option Nat × Cursor) :=
  let (chomp, depth, c) :=
    match chomping? c.peek with
    | some k =>
        match depth? c.next.peek with
        | some d => (k, some d, c.next.next)
        | none => (k, none, c.next)
    | none =>
        match depth? c.peek with
        | some d =>
            match chomping? c.next.peek with
            | some k => (k, some d, c.next.next)
            | none => (.clip, some d, c.next)
        | none => (.clip, none, c)
  if depth = some 0 || !endsField c.peek then refuse else .ok (chomp, depth, c)

/-- The empty lines before a block: their breaks, and the greatest column that blanks reach. -/
def leadingLines : Nat → Nat → Cursor → List Char × Nat × Cursor
  | 0, most, c => ([], most, c)
  | fuel + 1, most, c =>
      if c.peek = some ' ' then leadingLines fuel (max most c.next.column) c.next
      else
        match c.lineBreak? with
        | none => ([], most, c)
        | some (b, c) =>
            let (bs, most, c) := leadingLines fuel most c
            (b :: bs, most, c)

/-- The place after blanks, up to a column. -/
def dropIndent (indent : Nat) (c : Cursor) : Cursor :=
  c.skip ((c.rest.take (indent - c.column)).takeWhile (· == ' ')).length

/-- The breaks of empty lines inside a block, and the place after the indentation of the next
line. -/
def blockBreaks (indent : Nat) : Nat → Cursor → List Char × Cursor
  | 0, c => ([], c)
  | fuel + 1, c =>
      let c := dropIndent indent c
      match c.lineBreak? with
      | none => ([], c)
      | some (b, c) =>
          let (bs, c) := blockBreaks indent fuel c
          (b :: bs, c)

/-- Whether a character is a blank or a tab. -/
def isSpace (x : Option Char) : Bool := x = some ' ' || x = some '\t'

/-- What stands between two lines of a block. -/
def betweenLines (fold : Bool) (this next : Option Char) (b : List Char) (breaks : List Char) :
    List Char :=
  if fold && b = ['\n'] && !isSpace this && !isSpace next then
    (if breaks.isEmpty then [' '] else []) ++ breaks
  else b ++ breaks

/-- The lines of a block, from one that is indented deeply enough on: their text without what
follows the last line, the break of the last line, and the breaks of the empty lines after it. -/
def blockLines (fold : Bool) (indent : Nat) :
    Nat → Cursor → List Char × List Char × List Char × Cursor
  | 0, c => ([], [], [], c)
  | fuel + 1, c =>
      let (line, after) := c.span (!isBreak ·)
      let (b, after) := match after.lineBreak? with
        | some (b, after) => ([b], after)
        | none => ([], after)
      let (breaks, after) := blockBreaks indent after.reach after
      if after.column = indent && after.peek.isSome then
        let (more, lastBreak, tail, last) := blockLines fold indent fuel after
        (line ++ betweenLines fold c.peek after.peek b breaks ++ more, lastBreak, tail, last)
      else (line, b, breaks, after)

/-- A block, from its sign on; `indent` is the indentation around it. -/
def blockScalar (fold : Bool) (indent : Int) (c : Cursor) : Step (List Char × Cursor) := do
  let (chomp, depth, c) ← blockSigns c.next
  let c ← c.dropComment
  let least := max (indent + 1).toNat 1
  let (leading, column, c) :=
    match depth with
    | some d =>
        let column := least + d - 1
        let (bs, c) := blockBreaks column c.reach c
        (bs, column, c)
    | none =>
        let (bs, most, c) := leadingLines c.reach 0 c
        (bs, max least most, c)
  if c.column = column && c.peek.isSome then
    let (text, lastBreak, tail, c) := blockLines fold column c.reach c
    pure (leading ++ text
      ++ (if chomp = .strip then [] else lastBreak)
      ++ (if chomp = .keep then tail else []), c)
  else pure (if chomp = .keep then leading else [], c)

end QuasiGrammar.Yaml
