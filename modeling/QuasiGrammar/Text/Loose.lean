/-
  QuasiGrammar.Text.Loose
  ───────────────────────
  Texts whose letters need not be characters: a half of a surrogate pair may
  stand alone in them.  Such a text has no UTF-8 form, and its fault is the
  first run of halves in it.

      fault?_of      a text of characters has no fault
      of_spelling    a text without a fault is one of characters
-/

namespace QuasiGrammar.Text

/-- A letter of a loose text: a character, or a half of a surrogate pair by its place among the
halves. -/
inductive Letter where
  | char (c : Char)
  | half (i : Fin 0x800)
  deriving DecidableEq, Repr

/-- The first code point of the halves of surrogate pairs. -/
def firstHalf : Nat := 0xd800

/-- Whether a letter is a half of a surrogate pair. -/
def Letter.isHalf : Letter → Bool
  | .char _ => false
  | .half _ => true

/-- The character that a letter is, if it is one. -/
def Letter.char? : Letter → Option Char
  | .char c => some c
  | .half _ => none

/-- A text of letters. -/
abbrev LooseText := List Letter

/-- The first run of letters without a UTF-8 form: its place, its length and the code point of its
first letter. -/
structure EncodingFault where
  start : Nat
  count : Nat
  code : Nat
  deriving DecidableEq, Repr

namespace LooseText

/-- A text of characters. -/
def of (s : String) : LooseText := s.toList.map .char

/-- The characters of a text. -/
def spelling (text : LooseText) : String := String.ofList (text.filterMap Letter.char?)

/-- The fault of letters from a place on. -/
def faultFrom (place : Nat) : LooseText → Option EncodingFault
  | [] => none
  | .char _ :: rest => faultFrom (place + 1) rest
  | .half i :: rest => some ⟨place, (rest.takeWhile Letter.isHalf).length + 1, firstHalf + i⟩

/-- Why a text has no UTF-8 form, if it has none. -/
def fault? (text : LooseText) : Option EncodingFault := text.faultFrom 0

/-- What a file holds after a text has been written to it: the text, or nothing if it cannot be
encoded. -/
def written (text : LooseText) : String := if text.fault?.isNone then text.spelling else ""

theorem faultFrom_map_char (place : Nat) (cs : List Char) :
    faultFrom place (cs.map .char) = none := by
  induction cs generalizing place with
  | nil => rfl
  | cons c cs ih => exact ih (place + 1)

@[simp]
theorem fault?_of (s : String) : (of s).fault? = none := faultFrom_map_char 0 s.toList

@[simp]
theorem spelling_of (s : String) : (of s).spelling = s := by
  have hchars : (of s).filterMap Letter.char? = s.toList := by
    unfold of
    rw [List.filterMap_map]
    exact List.filterMap_some
  unfold spelling
  rw [hchars, String.ofList_toList]

@[simp]
theorem written_of (s : String) : (of s).written = s := by simp [written]

theorem map_char_of_faultFrom {place : Nat} {text : LooseText} (h : text.faultFrom place = none) :
    (text.filterMap Letter.char?).map .char = text := by
  induction text generalizing place with
  | nil => rfl
  | cons letter rest ih =>
    cases letter with
    | char c => exact congrArg (Letter.char c :: ·) (ih h)
    | half i => cases h

/-- A text without a fault is the text of its characters. -/
theorem of_spelling {text : LooseText} (h : text.fault? = none) : of text.spelling = text := by
  unfold of spelling
  rw [String.toList_ofList]
  exact map_char_of_faultFrom h

/-- A text has a UTF-8 form just if it is one of characters. -/
theorem fault?_eq_none_iff {text : LooseText} : text.fault? = none ↔ ∃ s, text = of s := by
  constructor
  · intro h
    exact ⟨text.spelling, (of_spelling h).symm⟩
  · rintro ⟨s, rfl⟩
    exact fault?_of s

theorem written_of_fault {text : LooseText} {fault : EncodingFault} (h : text.fault? = some fault) :
    text.written = "" := by
  simp [written, h]

end LooseText

end QuasiGrammar.Text
