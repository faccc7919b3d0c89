import Mathlib.Data.List.Forall2
import QuasiGrammar.Proofs.Regex.Frame
import QuasiGrammar.Proofs.Regex.Paths
import QuasiGrammar.Regex.Escape

/-
  QuasiGrammar.Proofs.Regex.Escape
  ────────────────────────────────
  **A text that is escaped is read as its characters, one literal for each.**

  It is enough that a backslash goes before the backslash and the signs, and
  before no letter and no digit (`Escapes`).  A token that comes of it stands for
  its character (`Stands`), wherever it is read; so the text can be read as a part
  of an expression (`readItems_escaped`) as well as alone.
-/

namespace QuasiGrammar.Regex

open Text

variable {s t : Scan} {special : Char → Bool}

/-! ## §1. Tokens that stand for characters. -/

/-- The signs that mean something outside of sets. -/
def signs : List Char := ['.', '^', '$', '[', '(', '*', '+', '?', '\x7b', '|', ')']

/-- A token that stands for a character, wherever it is read. -/
inductive Stands : Token → Char → Prop
  | plain {c : Char} (h : c ∉ signs) : Stands (.plain c) c
  | escaped {c : Char} (h : c.isAlphanum = false) : Stands (.escaped c) c

theorem Stands.ne_plain {u : Token} {c d : Char} (h : Stands u c) (hd : d ∈ signs) :
    u ≠ .plain d := by
  cases h with
  | plain hc =>
    rintro ⟨⟩
    exact hc hd
  | escaped hc => exact nofun

/-- Only letters and digits mean anything else after a backslash. -/
theorem itemEscape_of_sign {c : Char} (h : c.isAlphanum = false) :
    itemEscape c = (pure (.literal c.toNat) : Read Item) := by
  have hanchor : anchorEscape? c = none := by
    unfold anchorEscape?
    split <;> simp_all
  have hclass : classEscape? c = none := by
    unfold classEscape?
    split <;> simp_all
  have hcontrol : controlEscape? c = none := by
    unfold controlEscape?
    split <;> simp_all
  have hcode : codeEscape? c = none := by
    unfold codeEscape?
    split <;> simp_all
  have hdigit : ¬ c.isDigit = true := by
    intro hd
    rw [Char.isAlphanum, hd, Bool.or_true] at h
    cases h
  rw [itemEscape, hanchor, hclass, hcontrol, hcode]
  show (if c.isDigit = true then digitEscape c else _) = _
  rw [if_neg hdigit, plainEscape, h]
  rfl

/-- It is read as a literal. -/
theorem readToken_of_stands {u : Token} {c : Char} (h : Stands u c)
    (group : Opening → Read (Option Item)) (first : Bool) (start : Nat) (acc : List Item) :
    readToken group false first start acc u = pure (false, .literal c.toNat :: acc) := by
  cases h with
  | plain h =>
    simp only [readToken, Bool.false_and, if_neg Bool.false_ne_true]
    split <;> simp_all [signs]
  | escaped h =>
    rw [readToken, itemEscape_of_sign h]
    rfl

/-- A run of such tokens is read as literals, whatever follows. -/
theorem readItems_stands {us more : List Token} {cs : List Char} (h : List.Forall₂ Stands us cs)
    (hrest : t.rest = us ++ more) (hwhole : t.broken = false) (fuel : Nat) (first : Bool)
    (acc : List Item) :
    ∃ place, readItems (fuel + us.length) false first acc t =
      readItems fuel false first ((literals cs).reverse ++ acc)
        { t with rest := more, place := place } := by
  induction h generalizing t acc with
  | nil =>
    refine ⟨t.place, ?_⟩
    rw [← List.nil_append more, ← hrest]
    rfl
  | @cons u c us cs hu _ ih =>
    have hskipped : (t.skipped 1).rest = us ++ more := by
      show t.rest.drop 1 = _
      rw [hrest]
      rfl
    obtain ⟨place, hread⟩ := ih hskipped hwhole (.literal c.toNat :: acc)
    have hreverse : (literals (c :: cs)).reverse ++ acc =
        (literals cs).reverse ++ .literal c.toNat :: acc := by
      rw [literals_cons, List.reverse_cons, List.append_assoc, List.singleton_append]
    refine ⟨place, ?_⟩
    -- Neither the end of an alternative nor that of a group is such a token.
    rw [List.length_cons, ← Nat.add_assoc,
      readItems_of_cons hrest hwhole (hu.ne_plain (by decide)) (hu.ne_plain (by decide)),
      readToken_of_stands hu, pure_bind, hread, hreverse]
    rfl

/-! ## §2. Texts that are escaped. -/

/-- A kind of characters that makes a text stand for itself when they are escaped. -/
structure Escapes (special : Char → Bool) : Prop where
  backslash : special '\\' = true
  signs : signs.all special = true
  notAlphanum : ∀ c, special c = true → c.isAlphanum = false

theorem Escapes.stands (h : Escapes special) (cs : List Char) :
    List.Forall₂ Stands (cs.map (escapedToken special)) cs := by
  rw [List.forall₂_map_left_iff]
  refine List.forall₂_same.2 fun c _ => ?_
  rw [escapedToken]
  by_cases hc : special c = true
  · rw [if_pos hc]
    exact .escaped (h.notAlphanum c hc)
  · rw [if_neg hc]
    exact .plain fun hsign => hc (List.all_eq_true.1 h.signs c hsign)

/-- What the engine escapes is enough. -/
theorem escapes_specialChars : Escapes specialChars.contains where
  backslash := rfl
  signs := by decide
  notAlphanum c hc := by
    have hall : specialChars.all (!·.isAlphanum) = true := by decide
    simpa using List.all_eq_true.1 hall c (List.contains_iff_mem.1 hc)

/-- An escaped text is read as literals where it stands in an expression. -/
theorem readItems_escaped (h : Escapes special) (cs : List Char) {more : List Token}
    (hrest : t.rest = cs.map (escapedToken special) ++ more) (hwhole : t.broken = false)
    (fuel : Nat) (first : Bool) (acc : List Item) :
    ∃ place, readItems (fuel + cs.length) false first acc t =
      readItems fuel false first ((literals cs).reverse ++ acc)
        { t with rest := more, place := place } := by
  obtain ⟨place, hread⟩ := readItems_stands (h.stands cs) hrest hwhole fuel first acc
  rw [List.length_map] at hread
  exact ⟨place, hread⟩

/-- A reader before some tokens that has seen neither groups nor flags. -/
def Scan.bare (us : List Token) (place : Nat) : Scan := ⟨us, false, place, 1, [], [], none, [], []⟩

/-- Who comes to the end without groups, flags and bars has read an expression of these items. -/
theorem parse_of_readItems {source : List Char} {items : List Item} (place : Nat)
    (hwhole : (tokens source).2 = false)
    (h : readItems (4 * source.length + 7) false true [] (Scan.bare (tokens source).1 0) =
      .ok (items, Scan.bare [] place)) :
    parse source = .ok ⟨items, [], [], 1⟩ := by
  rw [Scan.bare, ← start_of_whole hwhole] at h
  refine parse_ok_iff.2 ⟨?_, Scan.bare [] place, ?_, rfl, rfl, rfl, rfl⟩
  · rw [settle_eq, start_of_whole hwhole, Bool.and_false]
    rfl
  · rw [readChoice, bind_of_ok h, bind_of_ok (readAlternatives_of_nil rfl _ _ _)]
    rfl

/-- An expression of literals. -/
def literalExpression (cs : List Char) : Expression := ⟨literals cs, [], [], 1⟩

theorem length_le_escapeWith (special : Char → Bool) (cs : List Char) :
    cs.length ≤ (escapeWith special cs).length := by
  induction cs with
  | nil => exact Nat.le_refl _
  | cons c cs ih =>
    rw [escapeWith_cons, List.length_append, List.length_cons]
    split
    · simp only [List.length_cons, List.length_nil]
      omega
    · simp only [List.length_cons, List.length_nil]
      omega

/-- **A text that is escaped is read as its characters.** -/
theorem parse_escapeWith (h : Escapes special) (cs : List Char) :
    parse (escapeWith special cs) = .ok (literalExpression cs) := by
  have htokens := tokens_escapeWith h.backslash cs
  have hle := length_le_escapeWith special cs
  obtain ⟨n, hn⟩ : ∃ n, 4 * (escapeWith special cs).length + 7 = n + 1 + cs.length :=
    ⟨4 * (escapeWith special cs).length + 6 - cs.length, by omega⟩
  have hrest : (Scan.bare (tokens (escapeWith special cs)).1 0).rest =
      cs.map (escapedToken special) ++ [] := by
    rw [htokens, List.append_nil]
    rfl
  obtain ⟨place, hread⟩ := readItems_escaped h cs hrest rfl (n + 1) true []
  refine parse_of_readItems place (by rw [htokens]) ?_
  rw [hn, hread, List.append_nil, readItems, peek_bind]
  show Except.ok ((literals cs).reverse.reverse, _) = _
  rw [List.reverse_reverse]
  rfl

/-! ## §3. Expressions of literals. -/

/-- Literals have no flaw. -/
theorem flawIn?_literals (groups : Nat → Width) (template : Bool) (cs : List Char)
    (more : List Item) :
    flawIn? groups template (literals cs ++ more) = flawIn? groups template more := by
  induction cs with
  | nil => rfl
  | cons c cs ih => rw [literals_cons, List.cons_append, flawIn?, Item.flaw?, ih]

/-- Literals do not look back. -/
theorem anyLooksTooFar_literals (groups : Nat → Width) (cs : List Char) (more : List Item) :
    anyLooksTooFar groups (literals cs ++ more) = anyLooksTooFar groups more := by
  induction cs with
  | nil => rfl
  | cons c cs ih =>
    rw [literals_cons, List.cons_append, anyLooksTooFar, Item.looksTooFar, ih, Bool.false_or]

/-- The engine carries it out. -/
theorem read_escapeWith (h : Escapes special) (cs : List Char) :
    read (escapeWith special cs) = .ok (literalExpression cs) := by
  refine read_ok_iff.2 ⟨parse_escapeWith h cs, ?_, ?_⟩
  · rw [Expression.flaw?, literalExpression, ← List.append_nil (literals cs), flawIn?_literals,
      flawIn?]
  · rw [literalExpression, ← List.append_nil (literals cs), anyLooksTooFar_literals,
      anyLooksTooFar]

/-- It matches its own text as a whole, and no other. -/
theorem matchesAll_literalExpression {a : Alphabet} {cs text : List Char} :
    (literalExpression cs).matchesAll a text = true ↔ text = cs := by
  have hpaths : (literalExpression cs).matchesAll a text = true ↔
      ∃ q, (Point.start text).Passes cs q ∧ q.after = [] := by
    rw [Expression.matchesAll, List.any_eq_true]
    exact exists_congr fun q => and_congr mem_allPaths_literals List.isEmpty_iff
  rw [hpaths]
  constructor
  · rintro ⟨q, h, hend⟩
    have htext : text = cs ++ q.after := h.after
    rw [htext, hend, List.append_nil]
  · rintro rfl
    exact ⟨_, Point.passes_past (List.append_nil _).symm, rfl⟩

end QuasiGrammar.Regex
