import QuasiGrammar.Text.Printable

/-
  QuasiGrammar.Text.Quoted
  ────────────────────────
  A text stands between single quotes, or between double quotes when it holds
  a single quote and no double one.  The backslash and the delimiter are
  escaped, and so are all characters that are not printable: line feed,
  carriage return and tab by a letter, the others by their code point in two,
  four or eight hexadecimal digits.
-/

namespace QuasiGrammar.Text

/-- The `width` lowest hexadecimal digits of a number, in lower case. -/
def hexDigits : Nat → Nat → List Char
  | 0, _ => []
  | width + 1, n => hexDigits width (n / 16) ++ [Nat.digitChar (n % 16)]

@[simp]
theorem length_hexDigits (width n : Nat) : (hexDigits width n).length = width := by
  induction width generalizing n with
  | zero => rfl
  | succ width ih => simp [hexDigits, ih]

/-- The quote that delimits a text: single, unless the text holds a single one and no double one. -/
def delimiter (cs : List Char) : Char :=
  if cs.contains '\'' && !cs.contains '"' then '"' else '\''

/-- One character of a quoted text. -/
def quotedChar (quote c : Char) : List Char :=
  if c == quote || c == '\\' then ['\\', c]
  else if c == '\n' then ['\\', 'n']
  else if c == '\r' then ['\\', 'r']
  else if c == '\t' then ['\\', 't']
  else if isPrintable c then [c]
  else if c.toNat ≤ 0xff then ['\\', 'x'] ++ hexDigits 2 c.toNat
  else if c.toNat ≤ 0xffff then ['\\', 'u'] ++ hexDigits 4 c.toNat
  else ['\\', 'U'] ++ hexDigits 8 c.toNat

/-- A text as messages show it. -/
def quoted (cs : List Char) : List Char :=
  let quote := delimiter cs
  quote :: cs.flatMap (quotedChar quote) ++ [quote]

/-- A text as messages show it. -/
def quote (s : String) : String := String.ofList (quoted s.toList)

/-- One octet of a quoted run of octets: outside ASCII's graphic characters it is escaped. -/
def quotedOctet (quote : Char) (b : UInt8) : List Char :=
  if b.toNat < 0x80 then quotedChar quote (Char.ofNat b.toNat)
  else ['\\', 'x'] ++ hexDigits 2 b.toNat

/-- A run of octets as messages show it: a quoted text after the letter `b`. -/
def quotedOctets (bs : List UInt8) : List Char :=
  let quote := delimiter (bs.map fun b => Char.ofNat b.toNat)
  'b' :: quote :: bs.flatMap (quotedOctet quote) ++ [quote]

end QuasiGrammar.Text
