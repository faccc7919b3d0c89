import QuasiGrammar.Text.Digit
import QuasiGrammar.Text.Split

/-
  QuasiGrammar.Yaml.Kind
  ──────────────────────
  The kinds of nodes.  A tag names a kind outright; a plain scalar without a
  tag has the first kind whose form its text has, and is a text if it has none
  of these forms.

  Only kinds whose forms can begin with the first character of a text are
  tried.  A form may be followed by one line break.
-/

namespace QuasiGrammar.Yaml

open Text

/-! ## §1. Kinds and tags. -/

/-- The kind of a node. -/
inductive Kind where
  | null
  | bool
  | int
  | float
  | binary
  | timestamp
  | text
  | list
  | map
  | orderedMap
  | pairs
  | set
  /-- The key under which a map takes over the entries of others. -/
  | merge
  /-- The key whose value stands for the map where a scalar is expected. -/
  | value
  /-- Anything else; no value has this kind. -/
  | unknown
  deriving DecidableEq, Repr, Inhabited

/-- Whether a kind has scalars. -/
def Kind.hasScalars : Kind → Bool
  | .null | .bool | .int | .float | .binary | .timestamp | .text => true
  | .list | .map | .orderedMap | .pairs | .set | .merge | .value | .unknown => false

/-- The beginning of the tags of all known kinds. -/
def tagNamespace : List Char := "tag:yaml.org,2002:".toList

/-- The kinds that a tag can name, each with the end of its tag. -/
def Kind.names : List (String × Kind) := [
  ("null", .null), ("bool", .bool), ("int", .int), ("float", .float), ("binary", .binary),
  ("timestamp", .timestamp), ("str", .text), ("seq", .list), ("map", .map),
  ("omap", .orderedMap), ("pairs", .pairs), ("set", .set), ("merge", .merge), ("value", .value)]

/-- The kind that a tag names. -/
def Kind.ofTag (tag : List Char) : Kind :=
  match dropText? tagNamespace tag with
  | none => .unknown
  | some name => (names.lookup (String.ofList name)).getD .unknown

/-! ## §2. Forms of scalars. -/

/-- Whether a text is of a form that may be followed by one line break. -/
def hasForm (form : List Char → Bool) (cs : List Char) : Bool :=
  form cs || (cs.getLast? == some '\n' && form cs.dropLast)

/-- The spellings of truth and falsehood, in small letters. -/
def truthWords : List (String × Bool) :=
  [("yes", true), ("no", false), ("true", true), ("false", false), ("on", true), ("off", false)]

/-- The three ways to write a word: in small letters, with a capital first, and in capitals. -/
def inCases (word : String) : List (List Char) :=
  let cs := word.toList
  [cs, (cs.take 1).map Char.toUpper ++ cs.drop 1, cs.map Char.toUpper]

/-- Whether a text spells a truth value. -/
def isTruthWord (cs : List Char) : Bool := truthWords.any fun w => (inCases w.1).contains cs

/-- Whether a text spells null. -/
def isNullWord (cs : List Char) : Bool := cs == [] || cs == ['~'] || (inCases "null").contains cs

/-- What follows an optional sign. -/
def dropSign : List Char → List Char
  | c :: cs => if c == '-' || c == '+' then cs else c :: cs
  | [] => []

/-- Whether a character is a digit below a base or a low line. -/
def isDigitOrLow (base : Nat) (c : Char) : Bool := c == '_' || (asciiDigit? c).any (· < base)

/-- Whether a text consists of digits of a base and low lines, and is not empty. -/
def isDigitRun (base : Nat) (cs : List Char) : Bool := cs != [] && cs.all (isDigitOrLow base)

/-- Whether a part of a sexagesimal number has one digit, or two of which the first is below
six. -/
def isSexagesimalPart : List Char → Bool
  | [d] => d.isDigit
  | [t, d] => '0' ≤ t && t ≤ '5' && d.isDigit
  | _ => false

/-- Whether a text is a sexagesimal number: digits and low lines, and at least one more part. -/
def isSexagesimal (first : Char → Bool) (cs : List Char) : Bool :=
  match splitAll ':' cs with
  | (d :: ds) :: part :: parts =>
      first d && ds.all (isDigitOrLow 10) && (part :: parts).all isSexagesimalPart
  | _ => false

/-- Whether a character is a digit other than zero. -/
def isPositiveDigit (c : Char) : Bool := c.isDigit && c != '0'

/-- Whether a text is an integer: binary, octal, decimal, hexadecimal or sexagesimal. -/
def isIntForm (cs : List Char) : Bool :=
  let body := dropSign cs
  match body with
  | ['0'] => true
  | '0' :: 'b' :: rest => isDigitRun 2 rest
  | '0' :: 'x' :: rest => isDigitRun 16 rest
  | '0' :: rest => isDigitRun 8 rest
  | c :: rest =>
      isPositiveDigit c && (rest.all (isDigitOrLow 10) || isSexagesimal isPositiveDigit body)
  | [] => false

/-- Whether a text is nothing or an exponent with a sign. -/
def isExponentForm : List Char → Bool
  | [] => true
  | e :: sign :: digits =>
      (e == 'e' || e == 'E') && (sign == '-' || sign == '+') && digits != [] &&
        digits.all Char.isDigit
  | _ => false

/-- Whether a text begins with a digit that digits and low lines follow. -/
def isWholePart : List Char → Bool
  | c :: rest => c.isDigit && rest.all (isDigitOrLow 10)
  | [] => false

/-- Whether a text is a decimal: with digits before the point, or without a sign and digits before
it. -/
def isDecimalForm (cs : List Char) : Bool :=
  let body := dropSign cs
  let whole := body.takeWhile (· != '.')
  match body.drop whole.length with
  | '.' :: rest =>
      let fraction := rest.takeWhile (isDigitOrLow 10)
      let ending := rest.drop fraction.length
      if whole = [] then body == cs && isWholePart fraction && isExponentForm ending
      else if isWholePart whole then isExponentForm ending
      else ending == [] && isSexagesimal Char.isDigit whole
  | _ => false

/-- Whether a text spells an infinity or "not a number". -/
def isSpecialForm (cs : List Char) : Bool :=
  match dropSign cs with
  | '.' :: word => (inCases "inf").contains word || (dropSign cs == cs && nanWords.contains word)
  | _ => false
where
  /-- The three spellings of "not a number". -/
  nanWords : List (List Char) := ["nan".toList, "NaN".toList, "NAN".toList]

/-- Whether a text is a number with a point. -/
def isFloatForm (cs : List Char) : Bool := isDecimalForm cs || isSpecialForm cs

/-! ## §3. Timestamps. -/

/-- The offset from universal time in a timestamp. -/
inductive Zone where
  | universal
  | offset (negative : Bool) (hours minutes : Nat)
  deriving DecidableEq, Repr

/-- The time of day in a timestamp; the fraction of a second is kept as digits. -/
structure TimeOfDay where
  hour : Nat
  minute : Nat
  second : Nat
  fraction : List Char
  zone : Option Zone
  deriving DecidableEq, Repr

/-- The parts of a timestamp, none of them checked; `full` tells whether month and day have two
digits each. -/
structure Timestamp where
  year : Nat
  month : Nat
  day : Nat
  full : Bool
  time : Option TimeOfDay
  deriving DecidableEq, Repr

/-- A run of digits, at least and at most so many, as many as there are. -/
def digitsBetween? (least most : Nat) (cs : List Char) : Option (List Char × List Char) :=
  let ds := (cs.take most).takeWhile Char.isDigit
  if ds.length < least then none else some (ds, cs.drop ds.length)

/-- What follows a character. -/
def dropChar? (x : Char) : List Char → Option (List Char)
  | c :: cs => if c = x then some cs else none
  | [] => none

/-- The zone at the end of a timestamp. -/
def readZone? : List Char → Option (Option Zone)
  | [] => some none
  | cs =>
      match cs.dropWhile fun c => c == ' ' || c == '\t' with
      | ['Z'] => some (some .universal)
      | sign :: rest => do
          if sign ≠ '-' ∧ sign ≠ '+' then none
          let (hours, rest) ← digitsBetween? 1 2 rest
          let minutes ← match rest with
            | [] => some []
            | _ => do
                let (ds, rest) ← digitsBetween? 2 2 (← dropChar? ':' rest)
                if rest = [] then some ds else none
          some (some (.offset (sign == '-') (ofDigits 10 hours) (ofDigits 10 minutes)))
      | [] => none

/-- The time of day in a timestamp, and the zone after it. -/
def readTime? (cs : List Char) : Option TimeOfDay := do
  let (hour, cs) ← digitsBetween? 1 2 cs
  let (minute, cs) ← digitsBetween? 2 2 (← dropChar? ':' cs)
  let (second, cs) ← digitsBetween? 2 2 (← dropChar? ':' cs)
  let (fraction, cs) := match cs with
    | '.' :: rest => (rest.takeWhile Char.isDigit, rest.dropWhile Char.isDigit)
    | _ => ([], cs)
  let zone ← readZone? cs
  some ⟨ofDigits 10 hour, ofDigits 10 minute, ofDigits 10 second, fraction, zone⟩

/-- What follows the sign between date and time of day. -/
def dropTimeSign? : List Char → Option (List Char)
  | [] => none
  | c :: cs =>
      if c == 'T' || c == 't' then some cs
      else if c == ' ' || c == '\t' then some (cs.dropWhile fun x => x == ' ' || x == '\t')
      else none

/-- The parts of a timestamp. -/
def Timestamp.read? (cs : List Char) : Option Timestamp := do
  let (year, cs) ← digitsBetween? 4 4 cs
  let (month, cs) ← digitsBetween? 1 2 (← dropChar? '-' cs)
  let (day, cs) ← digitsBetween? 1 2 (← dropChar? '-' cs)
  let full := month.length == 2 && day.length == 2
  let time ← if cs = [] then some none else some <$> readTime? (← dropTimeSign? cs)
  some ⟨ofDigits 10 year, ofDigits 10 month, ofDigits 10 day, full, time⟩

/-- Whether a text is a timestamp; a date alone has two digits for month and day. -/
def isTimestampForm (cs : List Char) : Bool :=
  (Timestamp.read? cs).any fun t => t.full || t.time.isSome

/-! ## §4. The kind of a plain scalar. -/

/-- The forms that a kind of plain scalar has, in the order in which they are tried: the characters
that such a text may begin with, whether a text has the form, and the kind. -/
def plainForms : List ((Option Char → Bool) × (List Char → Bool) × Kind) := [
  (fun c => c.any "yYnNtTfFoO".toList.contains, isTruthWord, .bool),
  (fun c => c.any "-+0123456789.".toList.contains, isFloatForm, .float),
  (fun c => c.any "-+0123456789".toList.contains, isIntForm, .int),
  (fun c => c == some '<', (· == ['<', '<']), .merge),
  (fun c => c.all "~nN".toList.contains, isNullWord, .null),
  (fun c => c.any Char.isDigit, isTimestampForm, .timestamp),
  (fun c => c == some '=', (· == ['=']), .value),
  (fun c => c.any "!&*".toList.contains, (·.length == 1), .unknown)]

/-- The kind of a plain scalar without a tag. -/
def Kind.ofPlain (cs : List Char) : Kind :=
  match plainForms.find? fun f => f.1 cs.head? && hasForm f.2.1 cs with
  | some f => f.2.2
  | none => .text

end QuasiGrammar.Yaml
