/-
  QuasiGrammar.Number.Binary64
  ────────────────────────────
  Binary floating-point numbers of 64 bits as data: a sign, a mantissa and an
  exponent in exact integers, the two infinities and "not a number".  Every
  finite result is the exact one rounded to the nearest number of the format,
  a tie going to the even mantissa; `ofRatio` is the only place that rounds.
-/

namespace QuasiGrammar.Number

/-- A number of the format. -/
inductive Binary64 where
  /-- The number `± mantissa · 2 ^ exponent`, with a mantissa below `2 ^ 53` that is at least
  `2 ^ 52` unless the exponent is the least one, `-1074`. -/
  | finite (negative : Bool) (mantissa : Nat) (exponent : Int)
  | infinite (negative : Bool)
  | nan
  deriving DecidableEq, Repr, Inhabited

/-- The quotient `n / d` rounded to the nearest natural number, a tie going to the even one. -/
def roundHalfEven (n d : Nat) : Nat :=
  let q := n / d
  let r := n % d
  if 2 * r > d || (2 * r == d && q % 2 == 1) then q + 1 else q

theorem roundHalfEven_one (n : Nat) : roundHalfEven n 1 = n := by
  simp [roundHalfEven, Nat.mod_one]

namespace Binary64

/-- The least exponent of the format. -/
def minExponent : Int := -1074

/-- The greatest exponent of the format. -/
def maxExponent : Int := 971

/-- Zero with a sign. -/
def zero (negative : Bool) : Binary64 := .finite negative 0 minExponent

/-- The fraction `n / (d · 2 ^ e)` as a numerator and a denominator. -/
def scaleDown (n d : Nat) (e : Int) : Nat × Nat :=
  if e ≥ 0 then (n, d * Nat.pow 2 e.toNat) else (n * Nat.pow 2 (-e).toNat, d)

/-- The exponent of the number of the format that is nearest to `n / d`, before rounding. -/
def exponentFor (n d : Nat) : Int :=
  let guess := max ((n.log2 : Int) - (d.log2 : Int) - 53) minExponent
  let (n', d') := scaleDown n d guess
  if n' / d' < Nat.pow 2 53 then guess else guess + 1

/-- The number of the format that is nearest to `± n / d`, for a positive `d`. -/
def ofRatio (negative : Bool) (n d : Nat) : Binary64 :=
  if n = 0 then zero negative
  else
    let e := exponentFor n d
    let (n', d') := scaleDown n d e
    let m := roundHalfEven n' d'
    let (m, e) := if m = Nat.pow 2 53 then (Nat.pow 2 52, e + 1) else (m, e)
    if e > maxExponent then .infinite negative else .finite negative m e

/-- The number of the format that is nearest to `± m · 2 ^ e`. -/
def ofDyadic (negative : Bool) (m : Nat) (e : Int) : Binary64 :=
  if e ≥ 0 then ofRatio negative (m * Nat.pow 2 e.toNat) 1 else ofRatio negative m (Nat.pow 2 (-e).toNat)

/-- The number of the format that is nearest to `± digits · 10 ^ e`.  Numbers far outside the
range are decided by their order of magnitude alone. -/
def ofDecimal (negative : Bool) (digits : Nat) (e : Int) : Binary64 :=
  let magnitude := (digits.log2 : Int) * 3 / 10 + e
  if digits = 0 then zero negative
  else if magnitude > 400 then .infinite negative
  else if magnitude < -800 then zero negative
  else if e ≥ 0 then ofRatio negative (digits * Nat.pow 10 e.toNat) 1
  else ofRatio negative digits (Nat.pow 10 (-e).toNat)

/-- The number of the format that is nearest to an integer. -/
def ofInt (i : Int) : Binary64 := ofRatio (i < 0) i.natAbs 1

/-- The number of the format that is nearest to an integer, if it is finite. -/
def ofInt? (i : Int) : Option Binary64 :=
  match ofInt i with
  | .finite s m e => some (.finite s m e)
  | _ => none

/-- Whether the number is below zero; a negative zero is not. -/
def isNegative : Binary64 → Bool
  | .finite s m _ => s && m != 0
  | .infinite s => s
  | .nan => false

/-- Whether the number is a zero of either sign. -/
def isZero : Binary64 → Bool
  | .finite _ m _ => m == 0
  | _ => false

/-- Whether the number is neither an infinity nor "not a number". -/
def isFinite : Binary64 → Bool
  | .finite .. => true
  | _ => false

/-- The number with the other sign. -/
def neg : Binary64 → Binary64
  | .finite s m e => .finite (!s) m e
  | .infinite s => .infinite (!s)
  | .nan => .nan

/-- A finite number as a multiple of `2 ^ e`, for an `e` not above its exponent. -/
def asMultiple (negative : Bool) (m : Nat) (exponent e : Int) : Int :=
  let a : Int := (m * Nat.pow 2 (exponent - e).toNat : Nat)
  if negative then -a else a

/-- The rounded sum; a zero sum is negative only if both terms are. -/
def add : Binary64 → Binary64 → Binary64
  | .finite s m e, .finite s' m' e' =>
      let low := min e e'
      let sum := asMultiple s m e low + asMultiple s' m' e' low
      if sum = 0 then zero (s && s') else ofDyadic (sum < 0) sum.natAbs low
  | .infinite s, .infinite s' => if s = s' then .infinite s else .nan
  | .infinite s, .finite .. => .infinite s
  | .finite .., .infinite s => .infinite s
  | .nan, _ => .nan
  | _, .nan => .nan

/-- The rounded product; an infinity times zero is not a number. -/
def mul : Binary64 → Binary64 → Binary64
  | .finite s m e, .finite s' m' e' =>
      if m * m' = 0 then zero (s != s') else ofDyadic (s != s') (m * m') (e + e')
  | .infinite s, .infinite s' => .infinite (s != s')
  | .infinite s, .finite s' m' _ => if m' = 0 then .nan else .infinite (s != s')
  | .finite s m _, .infinite s' => if m = 0 then .nan else .infinite (s != s')
  | .nan, _ => .nan
  | _, .nan => .nan

/-- Whether a number equals an integer exactly. -/
def eqInt : Binary64 → Int → Bool
  | .finite s m e, i =>
      if e ≥ 0 then asMultiple s m e 0 == i
      else asMultiple s m e e == i * (Nat.pow 2 (-e).toNat : Nat)
  | _, _ => false

/-- The nearest integer to `1000` times the number, a tie going to the even one: seconds in
milliseconds.  The infinities and "not a number" have none. -/
def toMillis? : Binary64 → Option Int
  | .finite s m e =>
      let (n, d) := scaleDown (m * 1000) 1 (-e)
      let r := roundHalfEven n d
      some (if s then -(r : Int) else r)
  | _ => none

end Binary64

end QuasiGrammar.Number
