import QuasiGrammar.Json.Printer
import QuasiGrammar.Text.Digit

/-
  QuasiGrammar.Proofs.Json.Grammar
  ────────────────────────────────
  **What is printed over several lines is JSON.**

  The grammar of RFC 8259, as texts: what may stand between the tokens, what a
  number is, which characters of a text have to be escaped and how, and how
  arrays and objects are put together.  It knows neither the printer nor the
  reader.

  Documents are textual values: arrays and objects with texts at the leaves, no
  key twice in an object.  Every textual value is printed as a text of the
  grammar (`Textual.valueForm`).
-/

namespace QuasiGrammar.Json

open Text

/-! ## §1. Tokens. -/

/-- Blanks, tabs, line feeds and carriage returns. -/
def GapForm (cs : List Char) : Prop := ∀ c ∈ cs, c = ' ' ∨ c = '\t' ∨ c = '\n' ∨ c = '\r'

/-- One character of a text: as it stands, after a backslash, or as a code unit in hexadecimal. -/
inductive CharForm : List Char → Prop
  | plain {c : Char} (hprint : 0x20 ≤ c.toNat) (hquote : c ≠ '"') (hslash : c ≠ '\\') :
      CharForm [c]
  | escaped {c : Char} (hc : c ∈ ['"', '\\', '/', 'b', 'f', 'n', 'r', 't']) : CharForm ['\\', c]
  | unit {a b c d : Char} (hhex : [a, b, c, d].all isHexDigit = true) :
      CharForm ['\\', 'u', a, b, c, d]

/-- Characters between quotes. -/
def TextForm (cs : List Char) : Prop :=
  ∃ parts : List (List Char), (∀ p ∈ parts, CharForm p) ∧ cs = '"' :: parts.flatten ++ ['"']

/-- Decimal digits. -/
def DigitsForm (cs : List Char) : Prop := cs ≠ [] ∧ ∀ c ∈ cs, c.isDigit = true

/-- A number: a minus sign or none, digits without a zero in front, and maybe a point with digits
and an exponent. -/
def NumberForm (cs : List Char) : Prop :=
  ∃ minus whole fraction power : List Char, cs = minus ++ whole ++ fraction ++ power ∧
    (minus = [] ∨ minus = ['-']) ∧
    (DigitsForm whole ∧ (whole.head? = some '0' → whole = ['0'])) ∧
    (fraction = [] ∨ ∃ ds, DigitsForm ds ∧ fraction = '.' :: ds) ∧
    (power = [] ∨ ∃ e sign ds, (e = 'e' ∨ e = 'E') ∧ (sign = [] ∨ sign = ['+'] ∨ sign = ['-']) ∧
      DigitsForm ds ∧ power = e :: sign ++ ds)

/-! ## §2. Values. -/

mutual

/-- A value without white space around it. -/
inductive ValueForm : List Char → Prop
  | null : ValueForm ['n', 'u', 'l', 'l']
  | yes : ValueForm ['t', 'r', 'u', 'e']
  | no : ValueForm ['f', 'a', 'l', 's', 'e']
  | number {cs : List Char} (h : NumberForm cs) : ValueForm cs
  | text {cs : List Char} (h : TextForm cs) : ValueForm cs
  | noItems {gap : List Char} (h : GapForm gap) : ValueForm ('[' :: gap ++ [']'])
  | items {cs : List Char} (h : ItemsForm cs) : ValueForm ('[' :: cs ++ [']'])
  | noFields {gap : List Char} (h : GapForm gap) : ValueForm ('\x7b' :: gap ++ ['\x7d'])
  | fields {cs : List Char} (h : FieldsForm cs) : ValueForm ('\x7b' :: cs ++ ['\x7d'])

/-- Values with white space around them and commas between them. -/
inductive ItemsForm : List Char → Prop
  | last {before cs after : List Char} (hbefore : GapForm before) (h : ValueForm cs)
      (hafter : GapForm after) : ItemsForm (before ++ cs ++ after)
  | more {before cs after rest : List Char} (hbefore : GapForm before) (h : ValueForm cs)
      (hafter : GapForm after) (hrest : ItemsForm rest) :
      ItemsForm (before ++ cs ++ after ++ ',' :: rest)

/-- Texts and values with colons between them, with white space around all of them and commas
between the pairs. -/
inductive FieldsForm : List Char → Prop
  | last {before key left right cs after : List Char} (hbefore : GapForm before)
      (hkey : TextForm key) (hleft : GapForm left) (hright : GapForm right) (h : ValueForm cs)
      (hafter : GapForm after) :
      FieldsForm (before ++ key ++ left ++ ':' :: right ++ cs ++ after)
  | more {before key left right cs after rest : List Char} (hbefore : GapForm before)
      (hkey : TextForm key) (hleft : GapForm left) (hright : GapForm right) (h : ValueForm cs)
      (hafter : GapForm after) (hrest : FieldsForm rest) :
      FieldsForm (before ++ key ++ left ++ ':' :: right ++ cs ++ after ++ ',' :: rest)

end

/-- Arrays and objects with texts at the leaves, and no key twice in an object. -/
inductive Textual : Json → Prop
  | text (s : String) : Textual (.text s)
  | array {items : List Json} (h : ∀ v ∈ items, Textual v) : Textual (.array items)
  | object {fields : List (String × Json)} (hkeys : (fields.map (·.1)).Nodup)
      (h : ∀ f ∈ fields, Textual f.2) : Textual (.object fields)

/-! ## §3. What is printed. -/

theorem gapForm_nil : GapForm [] := fun _ hc => nomatch hc

theorem gapForm_blank : GapForm [' '] := fun _ hc => .inl (List.mem_singleton.1 hc)

theorem gapForm_newline (depth : Nat) : GapForm (newline depth) := by
  intro c hc
  rcases List.mem_cons.1 hc with rfl | hc
  · exact .inr (.inr (.inl rfl))
  · exact .inl (List.eq_of_mem_replicate hc)

/-- The four digits of a control character. -/
theorem hexDigits_control : ∀ n < 0x20,
    hexDigits 4 n = ['0', '0', Nat.digitChar (n / 16), Nat.digitChar (n % 16)] ∧
      ['0', '0', Nat.digitChar (n / 16), Nat.digitChar (n % 16)].all isHexDigit = true := by
  decide

/-- The ways in which a character is printed, one for each of its escapes. -/
theorem escapedChar_cases (c : Char) :
    (∃ letter, escapedChar c = ['\\', letter] ∧ (letter, c) ∈
      [('"', '"'), ('\\', '\\'), ('n', '\n'), ('r', '\r'), ('t', '\t'), ('b', '\x08'),
        ('f', '\x0c')]) ∨
    (c.toNat < 0x20 ∧ escapedChar c =
      ['\\', 'u', '0', '0', Nat.digitChar (c.toNat / 16), Nat.digitChar (c.toNat % 16)]) ∨
    (escapedChar c = [c] ∧ 0x20 ≤ c.toNat ∧ c ≠ '"' ∧ c ≠ '\\') := by
  have hback : c.toNat = 0x08 → c = '\x08' := fun h => by
    rw [← Char.ofNat_toNat c, h]
  have hfeed : c.toNat = 0x0c → c = '\x0c' := fun h => by
    rw [← Char.ofNat_toNat c, h]
  unfold escapedChar
  simp only [beq_iff_eq]
  split
  · next h => subst h; exact .inl ⟨'"', rfl, by decide⟩
  split
  · next h => subst h; exact .inl ⟨'\\', rfl, by decide⟩
  split
  · next h => subst h; exact .inl ⟨'n', rfl, by decide⟩
  split
  · next h => subst h; exact .inl ⟨'r', rfl, by decide⟩
  split
  · next h => subst h; exact .inl ⟨'t', rfl, by decide⟩
  split
  · next h => rw [hback h]; exact .inl ⟨'b', rfl, by decide⟩
  split
  · next h => rw [hfeed h]; exact .inl ⟨'f', rfl, by decide⟩
  split
  · next h => exact .inr (.inl ⟨h, by rw [(hexDigits_control _ h).1]; rfl⟩)
  · next hquote hslash _ _ _ _ _ h => exact .inr (.inr ⟨rfl, by omega, hquote, hslash⟩)

theorem charForm_escapedChar (c : Char) : CharForm (escapedChar c) := by
  rcases escapedChar_cases c with ⟨letter, hprint, hc⟩ | ⟨hc, hprint⟩ | ⟨hprint, hc, hquote, hslash⟩
  · rw [hprint]
    refine .escaped ?_
    have hletters : ∀ p ∈ [('"', '"'), ('\\', '\\'), ('n', '\n'), ('r', '\r'), ('t', '\t'),
        ('b', '\x08'), ('f', '\x0c')], p.1 ∈ ['"', '\\', '/', 'b', 'f', 'n', 'r', 't'] := by
      decide
    exact hletters _ hc
  · rw [hprint]
    exact .unit (hexDigits_control _ hc).2
  · rw [hprint]
    exact .plain hc hquote hslash

theorem textForm_textLiteral (s : String) : TextForm (textLiteral s) := by
  refine ⟨s.toList.map escapedChar, ?_, ?_⟩
  · intro p hp
    obtain ⟨c, -, rfl⟩ := List.mem_map.1 hp
    exact charForm_escapedChar c
  · rw [textLiteral, List.flatMap_def]

theorem prettyItems_cons (depth : Nat) (v w : Json) (rest : List Json) :
    prettyItems depth (v :: w :: rest) =
      newline depth ++ prettyAt depth v ++ [','] ++ prettyItems depth (w :: rest) := by
  rw [prettyItems]
  exact fun h => nomatch h

theorem prettyFields_cons (depth : Nat) (k : String) (v : Json) (f : String × Json)
    (rest : List (String × Json)) :
    prettyFields depth ((k, v) :: f :: rest) =
      newline depth ++ textLiteral k ++ [':', ' '] ++ prettyAt depth v ++ [','] ++
        prettyFields depth (f :: rest) := by
  rw [prettyFields]
  exact fun h => nomatch h

/-- Items begin with the first one, after a line break. -/
theorem prettyItems_head (depth : Nat) (v : Json) (rest : List Json) :
    ∃ tail, prettyItems depth (v :: rest) = newline depth ++ (prettyAt depth v ++ tail) := by
  cases rest with
  | nil => exact ⟨[], by rw [prettyItems, List.append_nil]⟩
  | cons w more => exact ⟨_, by rw [prettyItems_cons, List.append_assoc, List.append_assoc]⟩

/-- Fields begin with the first key, after a line break. -/
theorem prettyFields_head (depth : Nat) (f : String × Json) (rest : List (String × Json)) :
    ∃ tail, prettyFields depth (f :: rest) = newline depth ++ (textLiteral f.1 ++ tail) := by
  obtain ⟨k, v⟩ := f
  cases rest with
  | nil => exact ⟨_, by rw [prettyFields, List.append_assoc, List.append_assoc]⟩
  | cons g more =>
    exact ⟨_, by rw [prettyFields_cons, List.append_assoc, List.append_assoc, List.append_assoc,
      List.append_assoc]⟩

theorem prettyAt_array (depth : Nat) (v : Json) (rest : List Json) :
    prettyAt depth (.array (v :: rest)) =
      '[' :: prettyItems (depth + 1) (v :: rest) ++ newline depth ++ [']'] := by
  rw [prettyAt]
  exact fun h => nomatch h

theorem prettyAt_object (depth : Nat) (f : String × Json) (rest : List (String × Json)) :
    prettyAt depth (.object (f :: rest)) =
      '\x7b' :: prettyFields (depth + 1) (f :: rest) ++ newline depth ++ ['\x7d'] := by
  rw [prettyAt]
  exact fun h => nomatch h

/-- Items, each after a line break, up to the break before the bracket. -/
theorem itemsForm_prettyItems {items : List Json} (hne : items ≠ []) (depth outer : Nat)
    (h : ∀ v ∈ items, ValueForm (prettyAt depth v)) :
    ItemsForm (prettyItems depth items ++ newline outer) := by
  induction items with
  | nil => exact absurd rfl hne
  | cons v rest ih =>
    have hv := h v List.mem_cons_self
    cases rest with
    | nil => exact .last (gapForm_newline depth) hv (gapForm_newline outer)
    | cons w more =>
      have hrest := ih (List.cons_ne_nil w more) fun u hu => h u (List.mem_cons_of_mem v hu)
      have hall := ItemsForm.more (gapForm_newline depth) hv gapForm_nil hrest
      rw [prettyItems_cons]
      simpa only [List.append_nil, List.append_assoc, List.cons_append, List.nil_append] using hall

/-- Fields, each after a line break, up to the break before the bracket. -/
theorem fieldsForm_prettyFields {fields : List (String × Json)} (hne : fields ≠ [])
    (depth outer : Nat) (h : ∀ f ∈ fields, ValueForm (prettyAt depth f.2)) :
    FieldsForm (prettyFields depth fields ++ newline outer) := by
  induction fields with
  | nil => exact absurd rfl hne
  | cons f rest ih =>
    obtain ⟨k, v⟩ := f
    have hv := h (k, v) List.mem_cons_self
    cases rest with
    | nil =>
      have hall := FieldsForm.last (gapForm_newline depth) (textForm_textLiteral k) gapForm_nil
        gapForm_blank hv (gapForm_newline outer)
      simpa only [prettyFields, List.append_nil, List.append_assoc, List.cons_append,
        List.nil_append] using hall
    | cons g more =>
      have hrest := ih (List.cons_ne_nil g more) fun u hu => h u (List.mem_cons_of_mem _ hu)
      have hall := FieldsForm.more (gapForm_newline depth) (textForm_textLiteral k) gapForm_nil
        gapForm_blank hv gapForm_nil hrest
      rw [prettyFields_cons]
      simpa only [List.append_nil, List.append_assoc, List.cons_append, List.nil_append] using hall

/-- **A textual value is printed as JSON**, at any depth. -/
theorem Textual.valueForm {v : Json} (h : Textual v) (depth : Nat) :
    ValueForm (prettyAt depth v) := by
  induction h generalizing depth with
  | text s => exact .text (textForm_textLiteral s)
  | @array items _ ih =>
    cases items with
    | nil => exact .noItems gapForm_nil
    | cons v rest =>
      have hitems := itemsForm_prettyItems (List.cons_ne_nil v rest) (depth + 1) depth
        fun u hu => ih u hu (depth + 1)
      rw [prettyAt_array]
      simpa only [List.cons_append, List.append_assoc] using ValueForm.items hitems
  | @object fields _ _ ih =>
    cases fields with
    | nil => exact .noFields gapForm_nil
    | cons f rest =>
      have hfields := fieldsForm_prettyFields (List.cons_ne_nil f rest) (depth + 1) depth
        fun u hu => ih u hu (depth + 1)
      rw [prettyAt_object]
      simpa only [List.cons_append, List.append_assoc] using ValueForm.fields hfields

end QuasiGrammar.Json
