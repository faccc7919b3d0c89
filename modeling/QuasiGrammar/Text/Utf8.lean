/-
  QuasiGrammar.Text.Utf8
  ──────────────────────
  Reads octets as UTF-8.  A fault names the run of octets that cannot be read
  and the reason: no character starts so, an octet that should go on a
  character does not, or the input ends inside a character.
-/

namespace QuasiGrammar.Text

/-- Why octets are no UTF-8. -/
inductive Utf8Reason where
  | invalidStart
  | invalidContinuation
  | unexpectedEnd
  deriving DecidableEq, Repr

/-- The first run of octets that is no UTF-8: its first octet, its place, its length and the
reason. -/
structure Utf8Fault where
  octet : UInt8
  start : Nat
  count : Nat
  reason : Utf8Reason
  deriving DecidableEq, Repr

/-- What the first octet of a character says: how many octets follow, the bits it contributes, and
the least and the greatest value of the second octet. -/
structure Utf8Lead where
  tail : Nat
  bits : Nat
  low : Nat
  high : Nat

/-- The reading of a first octet, if it may start a character. -/
def Utf8Lead.of? (b : Nat) : Option Utf8Lead :=
  if b < 0x80 then some ⟨0, b, 0, 0⟩
  else if b < 0xc2 then none
  else if b < 0xe0 then some ⟨1, b - 0xc0, 0x80, 0xbf⟩
  else if b < 0xf0 then
    some ⟨2, b - 0xe0, if b = 0xe0 then 0xa0 else 0x80, if b = 0xed then 0x9f else 0xbf⟩
  else if b < 0xf5 then
    some ⟨3, b - 0xf0, if b = 0xf0 then 0x90 else 0x80, if b = 0xf4 then 0x8f else 0xbf⟩
  else none

/-- Reads octets that go on a character: the finished code point and the rest, or how many octets
of the character were good and why the next one is not. -/
def utf8Tail : Nat → Nat → Nat → Nat → Nat → List UInt8 →
    Except (Nat × Utf8Reason) (Nat × List UInt8)
  | 0, bits, _, _, _, rest => .ok (bits, rest)
  | _ + 1, _, _, _, good, [] => .error (good, .unexpectedEnd)
  | n + 1, bits, low, high, good, b :: rest =>
      if low ≤ b.toNat && b.toNat ≤ high then
        utf8Tail n (bits * 64 + b.toNat % 64) 0x80 0xbf (good + 1) rest
      else .error (good, .invalidContinuation)

/-- The characters of octets from a place on, read in at most as many steps as the fuel says. -/
def utf8From : Nat → Nat → List UInt8 → Except Utf8Fault (List Char)
  | 0, _, _ => .ok []
  | _ + 1, _, [] => .ok []
  | fuel + 1, place, b :: rest =>
      match Utf8Lead.of? b.toNat with
      | none => .error ⟨b, place, 1, .invalidStart⟩
      | some lead =>
          match utf8Tail lead.tail lead.bits lead.low lead.high 1 rest with
          | .error (good, reason) => .error ⟨b, place, good, reason⟩
          | .ok (n, rest) =>
              match utf8From fuel (place + lead.tail + 1) rest with
              | .error f => .error f
              | .ok cs => .ok (Char.ofNat n :: cs)

/-- The characters that octets spell. -/
def decodeUtf8 (bs : List UInt8) : Except Utf8Fault (List Char) := utf8From bs.length 0 bs

/-- The octets that spell a text. -/
def encodeUtf8 (s : String) : List UInt8 := s.toUTF8.data.toList

/-- The number of octets that spell a text. -/
def utf8Length (s : String) : Nat := s.utf8ByteSize

/-- A text with every line break a line feed: a carriage return, alone or before a line feed,
becomes one. -/
def unixLines : List Char → List Char
  | [] => []
  | '\r' :: '\n' :: rest => '\n' :: unixLines rest
  | c :: rest => (if c == '\r' then '\n' else c) :: unixLines rest

end QuasiGrammar.Text
