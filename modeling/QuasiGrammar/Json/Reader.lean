import QuasiGrammar.Json.Basic
import QuasiGrammar.Number.Numeral
import QuasiGrammar.Text.Split

/-
  QuasiGrammar.Json.Reader
  ────────────────────────
  Reads the whole grammar of RFC 8259.  Of two fields with one name the later
  value counts, at the place of the first.  A number without point and
  exponent is an integer.  Halves of surrogate pairs that stand alone are read
  as the replacement character, since a text holds none.
-/

namespace QuasiGrammar.Json

open Number Text

/-- White space between the tokens. -/
def isGap (c : Char) : Bool := c == ' ' || c == '\t' || c == '\n' || c == '\r'

/-- The input after white space. -/
def skipGap (cs : List Char) : List Char := cs.dropWhile isGap

/-- The code unit that four hexadecimal digits spell. -/
def codeUnit? (a b c d : Char) : Option Nat :=
  if [a, b, c, d].all isHexDigit then some (ofDigits 16 [a, b, c, d]) else none

/-- The character that a letter after a backslash stands for. -/
def unescaped? : Char → Option Char
  | '"' => some '"'
  | '\\' => some '\\'
  | '/' => some '/'
  | 'b' => some '\x08'
  | 'f' => some '\x0c'
  | 'n' => some '\n'
  | 'r' => some '\r'
  | 't' => some '\t'
  | _ => none

/-- Whether a code unit is the first half of a pair. -/
def isHighHalf (u : Nat) : Bool := 0xd800 ≤ u && u < 0xdc00

/-- Whether a code unit is the second half of a pair. -/
def isLowHalf (u : Nat) : Bool := 0xdc00 ≤ u && u < 0xe000

/-- The character of a code unit that is no half of a pair. -/
def unitChar (u : Nat) : Char :=
  if isHighHalf u || isLowHalf u then '\ufffd' else Char.ofNat u

/-- The character of a pair of halves. -/
def pairChar (high low : Nat) : Char :=
  Char.ofNat (0x10000 + (high - 0xd800) * 0x400 + (low - 0xdc00))

/-- The characters of a run of code units, halves joined to pairs. -/
def joinUnits : List Nat → List Char
  | [] => []
  | [u] => [unitChar u]
  | u :: v :: rest =>
      if isHighHalf u && isLowHalf v then pairChar u v :: joinUnits rest
      else unitChar u :: joinUnits (v :: rest)

/-- The code units up to the closing quote, a character that is written out counting as one, and
what follows the quote. -/
def readUnits : List Char → Option (List Nat × List Char)
  | [] => none
  | '"' :: rest => some ([], rest)
  | '\\' :: 'u' :: a :: b :: c :: d :: rest =>
      match codeUnit? a b c d with
      | none => none
      | some u => (readUnits rest).map fun r => (u :: r.1, r.2)
  | '\\' :: c :: rest =>
      match unescaped? c with
      | none => none
      | some u => (readUnits rest).map fun r => (u.toNat :: r.1, r.2)
  | c :: rest =>
      if c == '\\' || c.toNat < 0x20 then none
      else (readUnits rest).map fun r => (c.toNat :: r.1, r.2)

/-- The text up to the closing quote, and what follows it. -/
def readText (cs : List Char) : Option (List Char × List Char) :=
  (readUnits cs).map fun r => (joinUnits r.1, r.2)

/-- A run of digits, and what follows it. -/
def spanDigits (cs : List Char) : List Char × List Char := cs.span Char.isDigit

/-- The digits after a point, if there is one. -/
def readFraction : List Char → Option (Option (List Char) × List Char)
  | '.' :: rest =>
      let (ds, more) := spanDigits rest
      if ds.isEmpty then none else some (some ds, more)
  | cs => some (none, cs)

/-- The exponent after its letter, if there is one. -/
def readPower : List Char → Option (Option Int × List Char)
  | c :: rest =>
      if c == 'e' || c == 'E' then
        let (negative, body) := splitSign rest
        let (ds, more) := spanDigits body
        if ds.isEmpty then none
        else
          let n : Int := ofDigits 10 ds
          some (some (if negative then -n else n), more)
      else some (none, c :: rest)
  | [] => some (none, [])

/-- A number, and what follows it. -/
def readNumber (cs : List Char) : Option (Json × List Char) := do
  let (negative, body) := match cs with
    | '-' :: rest => (true, rest)
    | _ => (false, cs)
  let (whole, rest) := spanDigits body
  if whole.isEmpty || (whole.length > 1 && whole.head? == some '0') then none
  else
    let (fraction, rest) ← readFraction rest
    let (power, rest) ← readPower rest
    match fraction, power with
    | none, none =>
        let n : Int := ofDigits 10 whole
        pure (.int (if negative then -n else n), rest)
    | _, _ =>
        let ds := fraction.getD []
        let e := power.getD 0 - ds.length
        pure (.float (Binary64.ofDecimal negative (ofDigits 10 (whole ++ ds)) e), rest)

mutual

/-- A value, and what follows it.  The first argument bounds the number of steps. -/
def readValue : Nat → List Char → Option (Json × List Char)
  | 0, _ => none
  | fuel + 1, cs =>
      match skipGap cs with
      | '"' :: rest => (readText rest).map fun r => (.text (String.ofList r.1), r.2)
      | '[' :: rest =>
          match skipGap rest with
          | ']' :: more => some (.array [], more)
          | more => (readItems fuel more).map fun r => (.array r.1, r.2)
      | '\x7b' :: rest =>
          match skipGap rest with
          | '\x7d' :: more => some (.object [], more)
          | more => (readFields fuel more).map fun r => (ofFields r.1, r.2)
      | 'n' :: rest => (dropText? "ull".toList rest).map fun r => (.null, r)
      | 't' :: rest => (dropText? "rue".toList rest).map fun r => (.bool true, r)
      | 'f' :: rest => (dropText? "alse".toList rest).map fun r => (.bool false, r)
      | cs => readNumber cs

/-- The items of an array up to its closing bracket, and what follows it. -/
def readItems : Nat → List Char → Option (List Json × List Char)
  | 0, _ => none
  | fuel + 1, cs => do
      let (v, rest) ← readValue fuel cs
      match skipGap rest with
      | ',' :: more => (readItems fuel more).map fun r => (v :: r.1, r.2)
      | ']' :: more => some ([v], more)
      | _ => none

/-- The fields of an object up to its closing bracket, and what follows it. -/
def readFields : Nat → List Char → Option (List (String × Json) × List Char)
  | 0, _ => none
  | fuel + 1, cs =>
      match skipGap cs with
      | '"' :: rest => do
          let (k, rest) ← readText rest
          let rest ← dropText? [':'] (skipGap rest)
          let (v, rest) ← readValue fuel rest
          match skipGap rest with
          | ',' :: more =>
              (readFields fuel more).map fun r => ((String.ofList k, v) :: r.1, r.2)
          | '\x7d' :: more => some ([(String.ofList k, v)], more)
          | _ => none
      | _ => none

end

/-- The value that a text spells, white space around it apart. -/
def ofText? (cs : List Char) : Option Json :=
  match readValue (2 * cs.length + 2) cs with
  | some (v, rest) => if (skipGap rest).isEmpty then some v else none
  | none => none

/-- The value that a text spells. -/
def read? (s : String) : Option Json := ofText? s.toList

end QuasiGrammar.Json
