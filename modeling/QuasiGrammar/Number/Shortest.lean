import QuasiGrammar.Number.Binary64

/-
  QuasiGrammar.Number.Shortest
  ────────────────────────────
  Among the decimals that round to a given number, the one with the fewest
  digits is printed, and of two such decimals the nearer one.  A number is
  tried on grids of 1 to 17 digits: on each grid only its two neighbours can
  round to it, and the first grid with a hit decides.
-/

namespace QuasiGrammar.Number

/-- A positive number `m · 2 ^ e` with the decimals that round to it: the quadruples of the number
and of the two ends, in units of `2 ^ e / 4`, and whether the ends belong to it. -/
structure Neighbourhood where
  low : Nat
  centre : Nat
  high : Nat
  unit : Int
  closed : Bool

/-- The neighbourhood of a positive number of the format.  Below a power of two the numbers lie
twice as close, so the lower end is nearer there. -/
def neighbourhood (m : Nat) (e : Int) : Neighbourhood :=
  let step := if m = Nat.pow 2 52 ∧ e > Binary64.minExponent then 1 else 2
  ⟨4 * m - step, 4 * m, 4 * m + 2, e - 2, m % 2 == 0⟩

/-- Compares `a · 2 ^ unit` with `d · 10 ^ p`. -/
def compareDecimal (a : Nat) (unit : Int) (d : Nat) (p : Int) : Ordering :=
  let left := a * Nat.pow 2 unit.toNat * Nat.pow 10 (-p).toNat
  let right := d * Nat.pow 10 p.toNat * Nat.pow 2 (-unit).toNat
  compare left right

/-- Whether the decimal `d · 10 ^ p` rounds to the number. -/
def Neighbourhood.holds (n : Neighbourhood) (d : Nat) (p : Int) : Bool :=
  let above := compareDecimal n.low n.unit d p
  let below := compareDecimal n.high n.unit d p
  (above == .lt || (n.closed && above == .eq)) && (below == .gt || (n.closed && below == .eq))

/-- The least `p` with `a · 2 ^ unit < 10 ^ p`, for a positive `a`. -/
def decimalPoint (a : Nat) (unit : Int) : Int :=
  let guess := ((a.log2 : Int) + unit) * 30103 / 100000
  if compareDecimal a unit 1 guess == .lt then guess
  else if compareDecimal a unit 1 (guess + 1) == .lt then guess + 1
  else guess + 2

/-- The whole multiples of `10 ^ p` that `a · 2 ^ unit` holds. -/
def floorDecimal (a : Nat) (unit p : Int) : Nat :=
  (a * Nat.pow 2 unit.toNat * Nat.pow 10 (-p).toNat) / (Nat.pow 10 p.toNat * Nat.pow 2 (-unit).toNat)

/-- Whether the lower of two neighbours `d` and `d + 1` on a grid is at least as near. -/
def lowerIsNearer (a : Nat) (unit : Int) (d : Nat) (p : Int) : Bool :=
  match compareDecimal (2 * a) unit (2 * d + 1) p with
  | .lt => true
  | .eq => d % 2 == 0
  | .gt => false

/-- The hit of a number on the grid of multiples of `10 ^ p`, if it has one. -/
def Neighbourhood.onGrid (n : Neighbourhood) (p : Int) : Option Nat :=
  let d := floorDecimal n.centre n.unit p
  match n.holds d p, n.holds (d + 1) p with
  | true, true => some (if lowerIsNearer n.centre n.unit d p then d else d + 1)
  | true, false => some d
  | false, true => some (d + 1)
  | false, false => none

/-- The first hit on the grids of `count` and more digits, for at most `tries` grids: the digits
as a number, and the power of ten of the last one. -/
def Neighbourhood.search (n : Neighbourhood) (point : Int) : Nat → Nat → Nat × Int
  | 0, count => (floorDecimal n.centre n.unit (point - count), point - count)
  | tries + 1, count =>
      match n.onGrid (point - count) with
      | some d => (d, point - count)
      | none => n.search point tries (count + 1)

/-- The shortest decimal that rounds to the positive number `m · 2 ^ e`, as digits and the place
of the point: `0.d₁d₂… · 10 ^ point`. -/
def shortestDecimal (m : Nat) (e : Int) : List Char × Int :=
  let n := neighbourhood m e
  let point := decimalPoint n.centre n.unit
  let (d, p) := n.search point 17 1
  let digits := Nat.toDigits 10 d
  let trimmed := (digits.reverse.dropWhile (· == '0')).reverse
  (trimmed, p + digits.length)

/-- How numbers are written: which decimal points are written in place, and how wide an exponent
is at least. -/
structure NumberFormat where
  /-- The greatest number of digits before the point that is still written out. -/
  maxPlaces : Int
  /-- The greatest number of zeros after the point that is still written out. -/
  maxZeros : Int
  /-- The least number of digits of an exponent. -/
  exponentWidth : Nat

/-- Numbers of settings and messages: written out up to sixteen digits before the point and three
zeros after it, else with an exponent of two digits at least. -/
def NumberFormat.settings : NumberFormat := ⟨16, 3, 2⟩

/-- The digits of a number in decimal, with zeros in front up to a width. -/
def padded (width n : Nat) : List Char :=
  let ds := Nat.toDigits 10 n
  List.replicate (width - ds.length) '0' ++ ds

/-- A decimal `0.d₁d₂… · 10 ^ point` written with the point in place. -/
def writtenOut (ds : List Char) (point : Int) : List Char :=
  if point ≤ 0 then ['0', '.'] ++ List.replicate (-point).toNat '0' ++ ds
  else
    let k := point.toNat
    if ds.length ≤ k then ds ++ List.replicate (k - ds.length) '0' ++ ['.', '0']
    else ds.take k ++ ['.'] ++ ds.drop k

/-- A decimal `0.d₁d₂… · 10 ^ point` written with an exponent. -/
def withExponent (width : Nat) (ds : List Char) (point : Int) : List Char :=
  let e := point - 1
  ds.take 1 ++ (if ds.length > 1 then '.' :: ds.drop 1 else [])
    ++ ['e', if e < 0 then '-' else '+'] ++ padded width e.natAbs

/-- The text of a number in a format. -/
def NumberFormat.text (f : NumberFormat) : Binary64 → List Char
  | .nan => "nan".toList
  | .infinite s => (if s then ['-'] else []) ++ "inf".toList
  | .finite s m e =>
      let sign := if s then ['-'] else []
      if m = 0 then sign ++ "0.0".toList
      else
        let (ds, point) := shortestDecimal m e
        sign ++ (if -f.maxZeros ≤ point ∧ point ≤ f.maxPlaces then writtenOut ds point
          else withExponent f.exponentWidth ds point)

/-- The text of a number as settings and messages show it. -/
def Binary64.text (x : Binary64) : String := String.ofList (NumberFormat.settings.text x)

end QuasiGrammar.Number
