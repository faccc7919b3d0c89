import QuasiGrammar.Json.Reader
import QuasiGrammar.Proofs.Json.Grammar

/-
  QuasiGrammar.Proofs.Json.Reading
  ────────────────────────────────
  **What is printed is read back.**

  A character is read from its escape, a text from its characters; a value is
  read from what is printed at any depth, whatever follows it
  (`Textual.readValue_prettyAt`).  The reader counts its steps, and the length
  of what is printed is enough of them.
-/

namespace QuasiGrammar.Json

open Text Number

/-! ## §1. Texts. -/

/-- A character is no half of a surrogate pair. -/
theorem isHalf_toNat (c : Char) : isHighHalf c.toNat = false ∧ isLowHalf c.toNat = false := by
  have hvalid : c.toNat < 0xd800 ∨ 0xdfff < c.toNat ∧ c.toNat < 0x110000 := c.valid
  simp only [isHighHalf, isLowHalf, Bool.and_eq_false_iff, decide_eq_false_iff_not]
  omega

theorem joinUnits_toNat (cs : List Char) : joinUnits (cs.map Char.toNat) = cs := by
  have hunit : ∀ c : Char, unitChar c.toNat = c := by
    intro c
    simp [unitChar, isHalf_toNat, Char.ofNat_toNat]
  induction cs with
  | nil => rfl
  | cons c rest ih =>
    cases rest with
    | nil => simp [joinUnits, hunit]
    | cons d more =>
      rw [List.map_cons, List.map_cons, joinUnits, ← List.map_cons, ih, hunit]
      simp [isHalf_toNat]

/-- A control character is read from its four digits. -/
theorem codeUnit?_control {n : Nat} (h : n < 0x20) :
    codeUnit? '0' '0' (Nat.digitChar (n / 16)) (Nat.digitChar (n % 16)) = some n := by
  have hall : ∀ n < 0x20,
      codeUnit? '0' '0' (Nat.digitChar (n / 16)) (Nat.digitChar (n % 16)) = some n := by
    decide
  exact hall n h

/-- A letter after a backslash stands for the character that it was printed for. -/
theorem readUnits_letter {letter c : Char} (rest : List Char)
    (h : (letter, c) ∈ [('"', '"'), ('\\', '\\'), ('n', '\n'), ('r', '\r'), ('t', '\t'),
      ('b', '\x08'), ('f', '\x0c')]) :
    readUnits ('\\' :: letter :: rest) =
      (readUnits rest).map fun r => (c.toNat :: r.1, r.2) := by
  simp only [List.mem_cons, Prod.mk.injEq, List.not_mem_nil, or_false] at h
  rcases h with ⟨rfl, rfl⟩ | ⟨rfl, rfl⟩ | ⟨rfl, rfl⟩ | ⟨rfl, rfl⟩ | ⟨rfl, rfl⟩ | ⟨rfl, rfl⟩ |
    ⟨rfl, rfl⟩ <;> simp [readUnits, unescaped?]

/-- One character of a text. -/
theorem readUnits_escapedChar (c : Char) (rest : List Char) :
    readUnits (escapedChar c ++ rest) = (readUnits rest).map fun r => (c.toNat :: r.1, r.2) := by
  rcases escapedChar_cases c with ⟨letter, hprint, hc⟩ | ⟨hc, hprint⟩ | ⟨hprint, hc, hquote, hslash⟩
  · rw [hprint]
    exact readUnits_letter rest hc
  · rw [hprint]
    simp only [List.cons_append, List.nil_append, readUnits, codeUnit?_control hc]
  · have hplain : ¬ (c == '\\' || decide (c.toNat < 0x20)) = true := by
      simp [hslash, Nat.not_lt.2 hc]
    rw [hprint, List.singleton_append, readUnits, if_neg hplain]
    · exact hquote
    · exact fun _ _ _ _ _ h _ => hslash h
    · exact fun _ _ h _ => hslash h

theorem readText_escaped (cs rest : List Char) :
    readText (cs.flatMap escapedChar ++ '"' :: rest) = some (cs, rest) := by
  have hunits : readUnits (cs.flatMap escapedChar ++ '"' :: rest) =
      some (cs.map Char.toNat, rest) := by
    induction cs with
    | nil => rfl
    | cons c more ih =>
      rw [List.flatMap_cons, List.append_assoc, readUnits_escapedChar, ih]
      rfl
  rw [readText, hunits, Option.map_some, joinUnits_toNat]

/-- A text is read from its literal, after the opening quote. -/
theorem textLiteral_append (s : String) (rest : List Char) :
    textLiteral s ++ rest = '"' :: (s.toList.flatMap escapedChar ++ '"' :: rest) := by
  simp [textLiteral]

/-! ## §2. White space and distinct keys. -/

theorem isGap_of_gapForm {gap : List Char} (h : GapForm gap) : ∀ c ∈ gap, isGap c = true := by
  intro c hc
  rcases h c hc with rfl | rfl | rfl | rfl <;> rfl

theorem skipGap_append {gap : List Char} (h : GapForm gap) (rest : List Char) :
    skipGap (gap ++ rest) = skipGap rest :=
  List.dropWhile_append_of_pos (isGap_of_gapForm h)

theorem skipGap_cons {c : Char} (h : isGap c = false) (rest : List Char) :
    skipGap (c :: rest) = c :: rest :=
  List.dropWhile_cons_of_neg (by simp [h])

theorem skipGap_skipGap (cs : List Char) : skipGap (skipGap cs) = skipGap cs := by
  induction cs with
  | nil => rfl
  | cons c rest ih =>
    by_cases hc : isGap c = true
    · have hskip : skipGap (c :: rest) = skipGap rest := List.dropWhile_cons_of_pos hc
      rw [hskip, ih]
    · rw [skipGap_cons (by simpa using hc), skipGap_cons (by simpa using hc)]

theorem readValue_skipGap (fuel : Nat) (cs : List Char) :
    readValue fuel (skipGap cs) = readValue fuel cs := by
  cases fuel with
  | zero => rfl
  | succ fuel => simp only [readValue, skipGap_skipGap]

theorem readItems_skipGap (fuel : Nat) (cs : List Char) :
    readItems fuel (skipGap cs) = readItems fuel cs := by
  cases fuel with
  | zero => rfl
  | succ fuel => simp only [readItems, readValue_skipGap]

theorem readFields_skipGap (fuel : Nat) (cs : List Char) :
    readFields fuel (skipGap cs) = readFields fuel cs := by
  cases fuel with
  | zero => rfl
  | succ fuel => simp only [readFields, skipGap_skipGap]

/-- A new key goes last. -/
theorem setField_of_notMem {key : String} (value : Json) {fields : List (String × Json)}
    (h : key ∉ fields.map (·.1)) : setField key value fields = fields ++ [(key, value)] := by
  induction fields with
  | nil => rfl
  | cons f rest ih =>
    obtain ⟨hf, hrest⟩ := not_or.1 (mt List.mem_cons.2 h)
    rw [setField, if_neg (Ne.symm hf), ih hrest]
    rfl

/-- Fields with distinct keys stay as they are. -/
theorem ofFields_of_nodup {fields : List (String × Json)} (h : (fields.map (·.1)).Nodup) :
    ofFields fields = .object fields := by
  -- Fields that have been set come before those that have not, and no key stands in both.
  have hset : ∀ more before : List (String × Json), ((before ++ more).map (·.1)).Nodup →
      more.foldl (fun acc f => setField f.1 f.2 acc) before = before ++ more := by
    intro more
    induction more with
    | nil => intro before _; simp
    | cons f rest ih =>
      intro before hnodup
      have hnew : f.1 ∉ before.map (·.1) := by
        intro hf
        rw [List.map_append, List.map_cons] at hnodup
        exact (List.nodup_append.1 hnodup).2.2 f.1 hf f.1 List.mem_cons_self rfl
      rw [List.foldl_cons, setField_of_notMem f.2 hnew, ih (before ++ [(f.1, f.2)]) (by simpa using hnodup)]
      simp
  rw [ofFields, hset fields [] h]
  rfl

/-! ## §3. Values. -/

theorem readValue_text {fuel : Nat} {cs rest : List Char} (h : skipGap cs = '"' :: rest) :
    readValue (fuel + 1) cs = (readText rest).map fun r => (.text (String.ofList r.1), r.2) := by
  rw [readValue, h]
  rfl

theorem readValue_array {fuel : Nat} {cs rest : List Char} (h : skipGap cs = '[' :: rest)
    (hopen : ∀ more, skipGap rest ≠ ']' :: more) :
    readValue (fuel + 1) cs = (readItems fuel rest).map fun r => (.array r.1, r.2) := by
  rw [← readItems_skipGap, readValue]
  -- The bracket is not closed at once (`hopen`), so items follow.
  simp only [h]

theorem readValue_object {fuel : Nat} {cs rest : List Char} (h : skipGap cs = '\x7b' :: rest)
    (hopen : ∀ more, skipGap rest ≠ '\x7d' :: more) :
    readValue (fuel + 1) cs = (readFields fuel rest).map fun r => (ofFields r.1, r.2) := by
  rw [← readFields_skipGap, readValue]
  -- The brace is not closed at once (`hopen`), so fields follow.
  simp only [h]

/-- What is printed begins with a quote or an opening bracket. -/
theorem Textual.head_prettyAt {v : Json} (h : Textual v) (depth : Nat) :
    ∃ c rest, prettyAt depth v = c :: rest ∧ (c = '"' ∨ c = '[' ∨ c = '\x7b') := by
  cases h with
  | text s => exact ⟨_, _, rfl, .inl rfl⟩
  | @array items _ =>
    cases items with
    | nil => exact ⟨_, _, rfl, .inr (.inl rfl)⟩
    | cons v rest => exact ⟨_, _, rfl, .inr (.inl rfl)⟩
  | @object fields _ _ =>
    cases fields with
    | nil => exact ⟨_, _, rfl, .inr (.inr rfl)⟩
    | cons f rest => exact ⟨_, _, rfl, .inr (.inr rfl)⟩

theorem Textual.skipGap_newline {v : Json} (h : Textual v) (depth : Nat) (rest : List Char) :
    skipGap (newline depth ++ (prettyAt depth v ++ rest)) = prettyAt depth v ++ rest := by
  obtain ⟨c, more, hprint, hc⟩ := h.head_prettyAt depth
  rw [skipGap_append (gapForm_newline depth), hprint, List.cons_append, skipGap_cons]
  rcases hc with rfl | rfl | rfl <;> rfl

/-- That a value is read back at any depth, if the steps are as many as its characters. -/
def ReadsBack (v : Json) : Prop :=
  ∀ (depth fuel : Nat) (rest : List Char), (prettyAt depth v).length ≤ fuel →
    readValue fuel (prettyAt depth v ++ rest) = some (v, rest)

/-- A value is read back after a line break. -/
theorem ReadsBack.newline {v : Json} (h : ReadsBack v) (htext : Textual v) (depth fuel : Nat)
    (rest : List Char) (hfuel : (prettyAt depth v).length ≤ fuel) :
    readValue fuel (newline depth ++ (prettyAt depth v ++ rest)) = some (v, rest) := by
  rw [← readValue_skipGap, htext.skipGap_newline, h depth fuel rest hfuel]

/-- Items are read back up to their closing bracket. -/
theorem readItems_prettyItems {items : List Json} (hne : items ≠ [])
    (h : ∀ v ∈ items, Textual v ∧ ReadsBack v) {depth fuel : Nat} (outer : Nat) (rest : List Char)
    (hfuel : (prettyItems depth items).length ≤ fuel) :
    readItems fuel (prettyItems depth items ++ (newline outer ++ ']' :: rest)) =
      some (items, rest) := by
  induction items generalizing fuel with
  | nil => exact absurd rfl hne
  | cons v more ih =>
    obtain ⟨htext, hback⟩ := h v List.mem_cons_self
    have hbreak : (newline depth).length = 2 * depth + 1 := by simp [newline]
    cases more with
    | nil =>
      have hclose : skipGap (newline outer ++ ']' :: rest) = ']' :: rest := by
        rw [skipGap_append (gapForm_newline outer), skipGap_cons rfl]
      rw [prettyItems, List.length_append, hbreak] at hfuel
      obtain ⟨fuel, rfl⟩ : ∃ n, fuel = n + 1 := ⟨fuel - 1, by omega⟩
      have hv := hback.newline htext depth fuel (newline outer ++ ']' :: rest) (by omega)
      rw [prettyItems, List.append_assoc, readItems, hv]
      simp only [Option.bind_eq_bind, Option.bind_some, hclose]
    | cons w others =>
      rw [prettyItems_cons, List.length_append, List.length_append, List.length_append, hbreak]
        at hfuel
      obtain ⟨fuel, rfl⟩ : ∃ n, fuel = n + 1 := ⟨fuel - 1, by omega⟩
      have hv := hback.newline htext depth fuel
        (',' :: (prettyItems depth (w :: others) ++ (newline outer ++ ']' :: rest))) (by omega)
      have hrest := ih (List.cons_ne_nil w others) (fun u hu => h u (List.mem_cons_of_mem v hu))
        (show (prettyItems depth (w :: others)).length ≤ fuel by omega)
      rw [prettyItems_cons]
      simp only [List.append_assoc, List.cons_append, List.nil_append]
      rw [readItems, hv]
      simp only [Option.bind_eq_bind, Option.bind_some, skipGap_cons (show isGap ',' = false from rfl),
        hrest, Option.map_some]

theorem dropText?_colon (more : List Char) :
    dropText? [':'] (skipGap (':' :: more)) = some more := by
  rw [skipGap_cons (show isGap ':' = false from rfl)]
  rfl

/-- The first of several fields is read, and then the others. -/
theorem readFields_more {fuel : Nat} {cs more rest next : List Char} {k : String} {v : Json}
    (hcs : skipGap cs = textLiteral k ++ ':' :: more)
    (hv : readValue fuel more = some (v, rest)) (hrest : skipGap rest = ',' :: next) :
    readFields (fuel + 1) cs = (readFields fuel next).map fun r => ((k, v) :: r.1, r.2) := by
  rw [readFields, hcs, textLiteral_append]
  simp only [readText_escaped, Option.bind_eq_bind, Option.bind_some, dropText?_colon, hv,
    hrest, String.ofList_toList]

/-- The last field is read. -/
theorem readFields_last {fuel : Nat} {cs more rest next : List Char} {k : String} {v : Json}
    (hcs : skipGap cs = textLiteral k ++ ':' :: more)
    (hv : readValue fuel more = some (v, rest)) (hrest : skipGap rest = '\x7d' :: next) :
    readFields (fuel + 1) cs = some ([(k, v)], next) := by
  rw [readFields, hcs, textLiteral_append]
  simp only [readText_escaped, Option.bind_eq_bind, Option.bind_some, dropText?_colon, hv,
    hrest, String.ofList_toList]

/-- Fields are read back up to their closing bracket. -/
theorem readFields_prettyFields {fields : List (String × Json)} (hne : fields ≠ [])
    (h : ∀ f ∈ fields, Textual f.2 ∧ ReadsBack f.2) {depth fuel : Nat} (outer : Nat)
    (rest : List Char) (hfuel : (prettyFields depth fields).length ≤ fuel) :
    readFields fuel (prettyFields depth fields ++ (newline outer ++ '\x7d' :: rest)) =
      some (fields, rest) := by
  induction fields generalizing fuel with
  | nil => exact absurd rfl hne
  | cons f more ih =>
    obtain ⟨k, v⟩ := f
    obtain ⟨htext, hback⟩ := h (k, v) List.mem_cons_self
    have hbreak : (newline depth).length = 2 * depth + 1 := by simp [newline]
    have hkey : ∀ after, skipGap (newline depth ++ (textLiteral k ++ ':' :: after)) =
        textLiteral k ++ ':' :: after := by
      intro after
      rw [skipGap_append (gapForm_newline depth), textLiteral_append, skipGap_cons rfl]
    -- A blank stands between the colon and the value.
    have hblank : ∀ fuel after, (prettyAt depth v).length ≤ fuel →
        readValue fuel (' ' :: (prettyAt depth v ++ after)) = some (v, after) := by
      intro fuel after hsteps
      obtain ⟨c, tail, hprint, hc⟩ := htext.head_prettyAt depth
      have hskip : skipGap (' ' :: (prettyAt depth v ++ after)) = prettyAt depth v ++ after := by
        rw [show ' ' :: (prettyAt depth v ++ after) = [' '] ++ (prettyAt depth v ++ after) from rfl,
          skipGap_append gapForm_blank, hprint, List.cons_append, skipGap_cons]
        rcases hc with rfl | rfl | rfl <;> rfl
      rw [← readValue_skipGap, hskip, hback depth fuel after hsteps]
    cases more with
    | nil =>
      rw [prettyFields] at hfuel ⊢
      simp only [List.length_append, hbreak] at hfuel
      obtain ⟨fuel, rfl⟩ : ∃ n, fuel = n + 1 := ⟨fuel - 1, by omega⟩
      simp only [List.append_assoc, List.cons_append, List.nil_append]
      refine readFields_last (hkey _) (hblank fuel _ (by omega)) ?_
      rw [skipGap_append (gapForm_newline outer), skipGap_cons rfl]
    | cons g others =>
      rw [prettyFields_cons] at hfuel ⊢
      simp only [List.length_append, hbreak] at hfuel
      obtain ⟨fuel, rfl⟩ : ∃ n, fuel = n + 1 := ⟨fuel - 1, by omega⟩
      have hrest := ih (List.cons_ne_nil g others) (fun u hu => h u (List.mem_cons_of_mem _ hu))
        (show (prettyFields depth (g :: others)).length ≤ fuel by omega)
      simp only [List.append_assoc, List.cons_append, List.nil_append]
      rw [readFields_more (hkey _) (hblank fuel _ (by omega)) (skipGap_cons rfl _), hrest]
      rfl

/-- **A textual value is read back** from what is printed of it, whatever follows. -/
theorem Textual.readsBack {v : Json} (h : Textual v) : ReadsBack v := by
  induction h with
  | text s =>
    intro depth fuel rest hfuel
    obtain ⟨fuel, rfl⟩ : ∃ n, fuel = n + 1 :=
      ⟨fuel - 1, by simp [prettyAt, scalarLiteral, textLiteral] at hfuel; omega⟩
    have hskip : skipGap (prettyAt depth (.text s) ++ rest) =
        '"' :: (s.toList.flatMap escapedChar ++ '"' :: rest) := by
      rw [show prettyAt depth (.text s) = textLiteral s from rfl, textLiteral_append,
        skipGap_cons rfl]
    rw [readValue_text hskip, readText_escaped, Option.map_some, String.ofList_toList]
  | @array items h ih =>
    intro depth fuel rest hfuel
    cases items with
    | nil =>
      obtain ⟨fuel, rfl⟩ : ∃ n, fuel = n + 1 := ⟨fuel - 1, by simp [prettyAt] at hfuel; omega⟩
      rfl
    | cons v more =>
      have hall : ∀ u ∈ v :: more, Textual u ∧ ReadsBack u := fun u hu => ⟨h u hu, ih u hu⟩
      rw [prettyAt_array] at hfuel ⊢
      simp only [List.length_append, List.length_cons] at hfuel
      obtain ⟨fuel, rfl⟩ : ∃ n, fuel = n + 1 := ⟨fuel - 1, by omega⟩
      have hitems := readItems_prettyItems (List.cons_ne_nil v more) hall depth rest
        (show (prettyItems (depth + 1) (v :: more)).length ≤ fuel by omega)
      simp only [List.cons_append, List.append_assoc, List.nil_append]
      rw [readValue_array (skipGap_cons rfl _) ?_, hitems, Option.map_some]
      -- The first item begins with no closing bracket.
      intro next hnext
      obtain ⟨tail, htail⟩ := prettyItems_head (depth + 1) v more
      obtain ⟨c, print, hprint, hc⟩ := (h v List.mem_cons_self).head_prettyAt (depth + 1)
      rw [htail, List.append_assoc, List.append_assoc,
        (h v List.mem_cons_self).skipGap_newline, hprint] at hnext
      injection hnext with hhead
      rcases hc with rfl | rfl | rfl <;> cases hhead
  | @object fields hkeys h ih =>
    intro depth fuel rest hfuel
    cases fields with
    | nil =>
      obtain ⟨fuel, rfl⟩ : ∃ n, fuel = n + 1 := ⟨fuel - 1, by simp [prettyAt] at hfuel; omega⟩
      rfl
    | cons f more =>
      have hall : ∀ u ∈ f :: more, Textual u.2 ∧ ReadsBack u.2 := fun u hu => ⟨h u hu, ih u hu⟩
      rw [prettyAt_object] at hfuel ⊢
      simp only [List.length_append, List.length_cons] at hfuel
      obtain ⟨fuel, rfl⟩ : ∃ n, fuel = n + 1 := ⟨fuel - 1, by omega⟩
      have hfields := readFields_prettyFields (List.cons_ne_nil f more) hall depth rest
        (show (prettyFields (depth + 1) (f :: more)).length ≤ fuel by omega)
      simp only [List.cons_append, List.append_assoc, List.nil_append]
      rw [readValue_object (skipGap_cons rfl _) ?_, hfields, Option.map_some,
        ofFields_of_nodup hkeys]
      -- The first key begins with a quote.
      intro next hnext
      obtain ⟨tail, htail⟩ := prettyFields_head (depth + 1) f more
      rw [htail, List.append_assoc, List.append_assoc, skipGap_append (gapForm_newline _),
        textLiteral_append, skipGap_cons rfl] at hnext
      injection hnext with hhead
      cases hhead

/-- **What is printed is read back.**  A line feed after it makes no difference. -/
theorem Textual.read?_pretty {v : Json} (h : Textual v) : read? (v.pretty ++ "\n") = some v := by
  have hcs : (v.pretty ++ "\n").toList = prettyAt 0 v ++ ['\n'] := by
    simp [pretty]
  have hv := h.readsBack 0 (2 * (prettyAt 0 v ++ ['\n']).length + 2) ['\n']
    (by simp only [List.length_append]; omega)
  rw [read?, hcs, ofText?, hv]
  rfl

end QuasiGrammar.Json
