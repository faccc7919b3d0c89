import QuasiGrammar.Text.NameTable.Alias
import QuasiGrammar.Text.NameTable.From0000
import QuasiGrammar.Text.NameTable.From0800
import QuasiGrammar.Text.NameTable.From1800
import QuasiGrammar.Text.NameTable.From2100
import QuasiGrammar.Text.NameTable.From2400
import QuasiGrammar.Text.NameTable.From2C00
import QuasiGrammar.Text.NameTable.FromA000
import QuasiGrammar.Text.NameTable.From10000
import QuasiGrammar.Text.NameTable.From11000
import QuasiGrammar.Text.NameTable.From13000
import QuasiGrammar.Text.NameTable.From18000
import QuasiGrammar.Text.NameTable.From1C000
import QuasiGrammar.Text.NameTable.From1E000
import QuasiGrammar.Text.NameTable.From1F400
import QuasiGrammar.Text.CharSet

/-
  QuasiGrammar.Text.CharName
  ──────────────────────────
  The characters by their names in Unicode 14.  The names of Hangul syllables
  are spelled from those of their letters, the names of ideographs from their
  code points; these are written in capitals.  All other names are found in
  tables, where letters count in either case.
-/

namespace QuasiGrammar.Text

/-! ## §1. Hangul syllables. -/

/-- The spellings of the letters that begin a syllable. -/
def leadingJamo : List String := [
  "G", "GG", "N", "D", "DD", "R", "M", "B", "BB", "S", "SS", "", "J", "JJ", "C", "K", "T", "P", "H"]

/-- The spellings of the vowels of a syllable. -/
def vowelJamo : List String := [
  "A", "AE", "YA", "YAE", "EO", "E", "YEO", "YE", "O", "WA", "WAE", "OE", "YO", "U", "WEO", "WE",
  "WI", "YU", "EU", "YI", "I"]

/-- The spellings of the letters that end a syllable. -/
def trailingJamo : List String := [
  "", "G", "GG", "GS", "N", "NJ", "NH", "D", "L", "LG", "LM", "LB", "LS", "LT", "LP", "LH", "M",
  "B", "BS", "S", "SS", "NG", "J", "C", "K", "T", "P", "H"]

/-- The longest spelling that a text begins with: its place among the spellings, and the rest of the
text. -/
def longestSpelling? (spellings : List String) (cs : List Char) : Option (Nat × List Char) :=
  spellings.zipIdx.foldl
    (fun best (spelling, index) =>
      match dropText? spelling.toList cs, best with
      | none, _ => best
      | some rest, none => some (index, rest)
      | some rest, some (_, shortest) =>
          if rest.length < shortest.length then some (index, rest) else best)
    none

/-- The code point of a syllable that is spelled out; of several spellings the longest one
counts. -/
def syllable? (cs : List Char) : Option Nat := do
  let (leading, cs) ← longestSpelling? leadingJamo cs
  let (vowel, cs) ← longestSpelling? vowelJamo cs
  let (trailing, cs) ← longestSpelling? trailingJamo cs
  if cs.isEmpty then
    some (0xac00 + (leading * vowelJamo.length + vowel) * trailingJamo.length + trailing)
  else none

/-! ## §2. Names that hold a code point. -/

/-- The unified ideographs. -/
def unifiedIdeographs : CharSet := ⟨[
  0x3400, 0x4dc0, 0x4e00, 0xa000, 0x20000, 0x2a6e0, 0x2a700, 0x2b739, 0x2b740, 0x2b81e, 0x2b820,
  0x2cea2, 0x2ceb0, 0x2ebe1, 0x30000, 0x3134b]⟩

/-- The code point of a unified ideograph, by four or five digits. -/
def unifiedIdeograph? (cs : List Char) : Option Nat :=
  let n := ofDigits 16 cs
  if (cs.length == 4 || cs.length == 5) && cs.all (fun c => isHexDigit c && !c.isLower)
      && unifiedIdeographs.contains (Char.ofNat n) then some n
  else none

/-- The other families of characters whose names end in their code points. -/
def numberedFamilies : List (String × CharSet) := [
  ("CJK COMPATIBILITY IDEOGRAPH-", ⟨[0xf900, 0xfa6e, 0xfa70, 0xfada, 0x2f800, 0x2fa1e]⟩),
  ("KHITAN SMALL SCRIPT CHARACTER-", ⟨[0x18b00, 0x18cd6]⟩),
  ("NUSHU CHARACTER-", ⟨[0x1b170, 0x1b2fc]⟩)]

/-- The code point that a name in capitals ends in, with four digits or, if they do not suffice,
with five. -/
def numberedChar? (name : List Char) : Option Nat :=
  numberedFamilies.findSome? fun (family, members) => do
    let digits ← dropText? family.toList name
    let n := ofDigits 16 digits
    if digits.all isHexDigit && digits.length == (if n < 0x10000 then 4 else 5)
        && members.contains (Char.ofNat n) then some n
    else none

/-! ## §3. Tables. -/

/-- The tables of names. -/
def nameTables : List (List NameRun) :=
  [namesFrom0000, namesFrom0800, namesFrom1800, namesFrom2100, namesFrom2400, namesFrom2C00,
    namesFromA000, namesFrom10000, namesFrom11000, namesFrom13000, namesFrom18000, namesFrom1C000,
    namesFrom1E000, namesFrom1F400]

/-- The code point of a name in capitals that stands in a table. -/
def tabledChar? (name : List Char) : Option Nat :=
  let words := splitAll ' ' name
  match nameTables.findSome? fun runs => runs.findSome? (·.find? words) with
  | some n => some n
  | none => nameAliases.lookup (String.ofList name)

/-- The character of a name. -/
def charNamed? (name : List Char) : Option Char :=
  Option.map Char.ofNat <|
    match dropText? "HANGUL SYLLABLE ".toList name,
        dropText? "CJK UNIFIED IDEOGRAPH-".toList name with
    | some spelling, _ => syllable? spelling
    | none, some digits => unifiedIdeograph? digits
    | none, none =>
        let capitals := name.map Char.toUpper
        match numberedChar? capitals with
        | some n => some n
        | none => tabledChar? capitals

end QuasiGrammar.Text
