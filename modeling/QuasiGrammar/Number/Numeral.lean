import QuasiGrammar.Number.Binary64
import QuasiGrammar.Text.Digit
import QuasiGrammar.Text.Split

/-
  QuasiGrammar.Number.Numeral
  ───────────────────────────
  Numerals that people write: integers in a base, with an optional sign, base
  mark and single low lines between digits, and decimals with an optional
  point and exponent.  Digits of any script count, and blanks around the
  numeral do not.
-/

namespace QuasiGrammar.Number

open QuasiGrammar.Text

/-- Why a text is refused as an integer. -/
inductive NumeralFault where
  /-- The text is no numeral in the base. -/
  | malformed
  /-- The numeral has more digits than are read. -/
  | tooLong (digits : Nat)
  deriving DecidableEq, Repr

/-- The greatest number of digits of a numeral that is read or written, in bases that are no
power of two. -/
def maxDigits : Nat := 4300

/-- The text with digits of other scripts replaced by those of ASCII. -/
def asciiDigits (cs : List Char) : List Char :=
  cs.map fun c =>
    match decimalDigit? c with
    | some d => Nat.digitChar d
    | none => c

/-- A sign in front of a numeral: whether it is a minus, and what follows. -/
def splitSign : List Char → Bool × List Char
  | '-' :: rest => (true, rest)
  | '+' :: rest => (false, rest)
  | cs => (false, cs)

/-- The letter that marks a base after a leading zero. -/
def baseMark : Nat → List Char
  | 2 => ['b', 'B']
  | 8 => ['o', 'O']
  | 16 => ['x', 'X']
  | _ => []

/-- What follows the mark of the base, and a low line after it. -/
def dropBaseMark (base : Nat) : List Char → List Char
  | '0' :: c :: rest =>
      if (baseMark base).contains c then
        match rest with
        | '_' :: more => more
        | _ => rest
      else '0' :: c :: rest
  | cs => cs

/-- The digits and low lines that a text begins with, and what follows them. -/
def splitDigits (base : Nat) (cs : List Char) : List Char × List Char :=
  cs.span fun c => c == '_' || (asciiDigit? c).any (· < base)

/-- Whether the number of digits in a base is limited; it is not if each digit stands for some
bits. -/
def limitsDigits (base : Nat) : Bool := base ∉ [2, 4, 8, 16, 32]

/-- The number that digits in a base denote, low lines between them left out.  There must be digits
on both sides of a low line; too many digits are refused before what follows them is looked at, and
nothing may follow. -/
def readDigits (base : Nat) (cs : List Char) : Except NumeralFault Nat :=
  let (run, rest) := splitDigits base cs
  let parts := splitAll '_' run
  let digits := parts.flatten
  if run ≠ [] && parts.any List.isEmpty then .error .malformed
  else if digits.length > maxDigits && limitsDigits base then .error (.tooLong digits.length)
  else if run = [] || rest ≠ [] then .error .malformed
  else .ok (ofDigits base digits)

/-- Reads an integer in a base. -/
def readInt (base : Nat) (cs : List Char) : Except NumeralFault Int :=
  let (negative, body) := splitSign (trimBlanks (asciiDigits cs))
  (readDigits base (dropBaseMark base body)).map fun n => if negative then -(n : Int) else n

/-- The exponent after a mantissa, if what is left is one or nothing. -/
def readExponent : List Char → Option Int
  | [] => some 0
  | c :: rest =>
      if c == 'e' || c == 'E' then
        let (negative, ds) := splitSign rest
        if ds.isEmpty || !ds.all Char.isDigit then none
        else some (if negative then -(ofDigits 10 ds : Int) else ofDigits 10 ds)
      else none

/-- Reads an unsigned decimal. -/
def readMagnitude (negative : Bool) (cs : List Char) : Option Binary64 :=
  let lower := cs.map Char.toLower
  if lower == "inf".toList || lower == "infinity".toList then some (.infinite negative)
  else if lower == "nan".toList then some .nan
  else
    let whole := cs.takeWhile Char.isDigit
    let afterWhole := cs.dropWhile Char.isDigit
    let (fraction, rest) :=
      match afterWhole with
      | '.' :: more => (more.takeWhile Char.isDigit, more.dropWhile Char.isDigit)
      | _ => ([], afterWhole)
    if whole.isEmpty && fraction.isEmpty then none
    else
      (readExponent rest).map fun e =>
        Binary64.ofDecimal negative (ofDigits 10 (whole ++ fraction)) (e - fraction.length)

/-- Reads a decimal: digits with an optional point and exponent, an infinity or "not a number". -/
def readBinary64 (cs : List Char) : Option Binary64 :=
  let (negative, body) := splitSign (trimBlanks (asciiDigits cs))
  readMagnitude negative body

end QuasiGrammar.Number
