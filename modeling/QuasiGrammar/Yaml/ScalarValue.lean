import QuasiGrammar.Number.Numeral
import QuasiGrammar.Text.Lower
import QuasiGrammar.Value.Basic
import QuasiGrammar.Yaml.Kind
import QuasiGrammar.Yaml.Cursor

/-
  QuasiGrammar.Yaml.ScalarValue
  ─────────────────────────────
  The values of scalars.  A plain scalar has the form of its kind, but a tag
  can name any kind for any text; a text that its kind cannot read is a
  defect, which says what was to be read.
-/

namespace QuasiGrammar.Yaml

open Number Text

/-! ## §1. Numbers. -/

/-- A text without its low lines. -/
def dropLowLines (cs : List Char) : List Char := cs.filter (· != '_')

/-- Reads an integer in a base. -/
def integerIn (base : Nat) (cs : List Char) : Step Int :=
  match readInt base cs with
  | .ok i => .ok i
  | .error .malformed => .error (.defect (.notAnInteger base (String.ofList cs)))
  | .error (.tooLong digits) => .error (.defect (.tooManyDigits digits))

/-- Reads a number with a point. -/
def decimal (cs : List Char) : Step Binary64 :=
  match readBinary64 cs with
  | some x => .ok x
  | none => .error (.defect (.notADecimal (String.ofList cs)))

/-- Whether a number begins with a minus, and what follows a sign; there must be a character. -/
def signed (cs : List Char) : Step (Bool × List Char) :=
  if cs = [] then .error (.defect .emptyNumber) else .ok (splitSign cs)

/-- The number that sexagesimal digits denote, the first being the highest. -/
def sexagesimalInt (digits : List Int) : Int := digits.foldl (fun n d => n * 60 + d) 0

/-- The digits of a sexagesimal number with the lowest first, each times its weight, added up. -/
def sexagesimalSum : Nat → Binary64 → List Binary64 → Step Binary64
  | _, sum, [] => .ok sum
  | weight, sum, d :: ds =>
      match Binary64.ofInt? weight with
      | none => .error (.defect .numberTooLarge)
      | some w => sexagesimalSum (weight * 60) (sum.add (d.mul w)) ds

/-- The value of an unsigned integer: binary, hexadecimal, octal, sexagesimal or decimal. -/
def magnitude (cs : List Char) : Step Int :=
  match cs with
  | [] => .error (.defect .emptyNumber)
  | ['0'] => .ok 0
  | '0' :: 'b' :: ds => integerIn 2 ds
  | '0' :: 'x' :: ds => integerIn 16 ds
  | '0' :: _ => integerIn 8 cs
  | _ =>
      if cs.contains ':' then sexagesimalInt <$> (splitAll ':' cs).mapM (integerIn 10)
      else integerIn 10 cs

/-- The value of an integer. -/
def intValue (cs : List Char) : Step Int := do
  let (negative, body) ← signed (dropLowLines cs)
  let n ← magnitude body
  pure (if negative then -n else n)

/-- The value of a number with a point, at a node. -/
def floatValue (node : Nat) (cs : List Char) : Step Value := do
  let (negative, body) ← signed (lowered (dropLowLines cs))
  let computed (x : Binary64) : Value :=
    .ofComputed node (if negative then x.neg else x)
  if body = ".inf".toList then pure (.float (.infinite negative))
  else if body = ".nan".toList then pure (.float .nan)
  else if body.contains ':' then
    let digits ← (splitAll ':' body).mapM decimal
    computed <$> sexagesimalSum 1 (.zero false) digits.reverse
  else computed <$> decimal body

/-! ## §2. Octets. -/

/-- The value of a digit of base 64. -/
def base64Digit? (c : Char) : Option Nat :=
  if 'A' ≤ c && c ≤ 'Z' then some (c.toNat - 'A'.toNat)
  else if 'a' ≤ c && c ≤ 'z' then some (c.toNat - 'a'.toNat + 26)
  else if c.isDigit then some (c.toNat - '0'.toNat + 52)
  else if c == '+' then some 62
  else if c == '/' then some 63
  else none

/-- The octets of a text in base 64.  Digits come in groups of four, each of which adds six bits to
those left over; a group may be filled up with signs of equality, at which reading stops, and any
other character is passed over. -/
def base64From (place left pads : Nat) : List Char → Option (List UInt8)
  | [] => if place = 0 then some [] else none
  | c :: cs =>
      if c = '=' then
        if 2 ≤ place then
          if 4 ≤ place + pads + 1 then some [] else base64From place left (pads + 1) cs
        else base64From place left pads cs
      else
        match base64Digit? c with
        | none => base64From place left pads cs
        | some d =>
            let bits := left * 64 + d
            match place with
            | 0 => base64From 1 d 0 cs
            | 1 => (base64From 2 (bits % 16) 0 cs).map (UInt8.ofNat (bits / 16) :: ·)
            | 2 => (base64From 3 (bits % 4) 0 cs).map (UInt8.ofNat (bits / 4) :: ·)
            | _ => (base64From 0 0 0 cs).map (UInt8.ofNat bits :: ·)

/-- The octets of a text in base 64, which must be ASCII. -/
def octetsValue (cs : List Char) : Step (List UInt8) :=
  if cs.all (·.toNat < 128) then
    match base64From 0 0 0 cs with
    | some bs => .ok bs
    | none => refuse
  else refuse

/-! ## §3. Timestamps. -/

/-- The first six digits of the fraction of a second, as a number of microseconds. -/
def microseconds (fraction : List Char) : Nat :=
  ofDigits 10 ((fraction ++ List.replicate 6 '0').take 6)

/-- The offset of a zone in seconds. -/
def Zone.seconds : Zone → Int
  | .universal => 0
  | .offset negative hours minutes =>
      let s : Int := (hours * 3600 + minutes * 60 : Nat)
      if negative then -s else s

/-- The value of a timestamp: a date, or a moment if there is a time of day. -/
def Timestamp.value (t : Timestamp) : Except CalendarPart Value :=
  match t.time with
  | none => .date <$> Date.ofParts t.year t.month t.day
  | some time =>
      .moment <$> Moment.ofParts t.year t.month t.day time.hour time.minute time.second
        (microseconds time.fraction) (time.zone.map Zone.seconds)

/-- The value of a text that is to be a timestamp; one line break may follow it. -/
def timestampValue (cs : List Char) : Step Value :=
  let short := if cs.getLast? = some '\n' then cs.dropLast else cs
  match Timestamp.read? short with
  | none => .error (.defect .notADate)
  | some t =>
      match t.value with
      | .ok v => .ok v
      | .error part => .error (.defect (.calendar part))

/-! ## §4. Scalars. -/

/-- The value of a word for a truth value. -/
def boolValue (cs : List Char) : Step Bool :=
  let word := String.ofList (lowered cs)
  match truthWords.lookup word with
  | some b => .ok b
  | none => .error (.defect (.notABoolean word))

/-- The value of a scalar of a kind, at a node.  Kinds of collections have no scalars. -/
def scalarValue (node : Nat) (kind : Kind) (cs : List Char) : Step Value :=
  match kind with
  | .null => .ok .null
  | .bool => .bool <$> boolValue cs
  | .int => .int <$> intValue cs
  | .float => floatValue node cs
  | .binary => .octets <$> octetsValue cs
  | .timestamp => timestampValue cs
  | .text => .ok (.text (String.ofList cs))
  | .list | .map | .orderedMap | .pairs | .set | .merge | .value | .unknown => refuse

end QuasiGrammar.Yaml
