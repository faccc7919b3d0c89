import QuasiGrammar.Proofs.Regex.Escape
import QuasiGrammar.Proofs.Rule.Begin
import QuasiGrammar.Proofs.Rule.Sense

/-
  QuasiGrammar.Proofs.Rule.Literal
  ────────────────────────────────
  **A literal is written as an expression that reads as its characters and
  matches itself alone.**

  Escaping doubles the backslashes first and then escapes the signs; no sign is a
  backslash, so one pass does both.  Literals have no groups and no flags: what
  they are written as can begin a pattern.
-/

namespace QuasiGrammar.Rule

open Regex Text

/-! ## §1. Escaping. -/

/-- What a literal escapes is enough. -/
theorem escapes_literal : Escapes fun c => c = '\\' || metaChars.contains c where
  backslash := rfl
  signs := by decide
  notAlphanum c hc := by
    have hall : ('\\' :: metaChars).all (!·.isAlphanum) = true := by decide
    have hmem : c ∈ '\\' :: metaChars := by simpa using hc
    simpa using List.all_eq_true.1 hall c hmem

/-- The backslashes can be doubled before the signs are escaped. -/
theorem escapeLiteral_eq_twice (tag : List Char) :
    escapeLiteral tag = escapeWith metaChars.contains (escapeWith (· == '\\') tag) := by
  induction tag with
  | nil => rfl
  | cons c tag ih =>
    have happend : ∀ cs ds, escapeWith metaChars.contains (cs ++ ds) =
        escapeWith metaChars.contains cs ++ escapeWith metaChars.contains ds :=
      fun cs ds => List.flatMap_append
    rw [escapeLiteral_cons, ih, escapeWith_cons, happend]
    congr 1
    by_cases hc : c = '\\'
    · subst hc
      rfl
    · simp [hc, escapeWith]

theorem read_escapeLiteral (tag : List Char) :
    read (escapeLiteral tag) = .ok (literalExpression tag) :=
  read_escapeWith escapes_literal tag

/-! ## §2. What a literal begins with. -/

theorem allSteady_literals (cs : List Char) : allSteady false (literals cs) = true := by
  induction cs with
  | nil => rfl
  | cons c cs ih => rw [literals_cons, allSteady, ih, Item.steady, Bool.true_and]

/-- Literals can begin a pattern. -/
theorem begins_literalExpression (tag : List Char) : (literalExpression tag).Begins :=
  begins_of_steady (read_escapeLiteral tag) rfl (allSteady_literals tag)

/-- The expression that begins a pattern, for a literal. -/
theorem read_beginWith_literal (tag : List Char) :
    read (Pattern.beginWith (String.ofList (escapeLiteral tag))).toList =
      .ok (literalExpression tag).framed := by
  have hread := read_escapeLiteral tag
  rw [← String.toList_ofList (l := escapeLiteral tag)] at hread
  exact (read_beginWith_iff (read_ok_iff.1 hread).1).2 ⟨begins_literalExpression tag, rfl⟩

/-- **A literal is written as an expression that reads as its characters one by one and matches
itself alone; different literals are written differently, and the engine accepts each of them, alone
and where it begins a pattern.** -/
theorem escapeLiteral_quotes (a : Alphabet) :
    Function.Injective escapeLiteral ∧
      ∀ tag : List Char,
        escapeLiteral tag = escapeWith metaChars.contains (escapeWith (· == '\\') tag) ∧
        read (escapeLiteral tag) = .ok (literalExpression tag) ∧
        (∀ text, (literalExpression tag).matchesAll a text = true ↔ text = tag) ∧
        engine (String.ofList (escapeLiteral tag)) = .accepted ∧
        engine (Pattern.beginWith (String.ofList (escapeLiteral tag))) = .accepted := by
  refine ⟨fun _ _ h => escapeLiteral_injective h, fun tag =>
    ⟨escapeLiteral_eq_twice tag, read_escapeLiteral tag, fun _ => matchesAll_literalExpression,
      ?_, ?_⟩⟩
  · rw [engine_eq_accepted_iff, String.toList_ofList]
    exact ⟨_, read_escapeLiteral tag⟩
  · rw [engine_eq_accepted_iff]
    exact ⟨_, read_beginWith_literal tag⟩

example : escapeLiteral "a\\.b".toList = "a\\\\\\.b".toList := by decide

/-! ## §3. What begins with a literal. -/

variable {a : Alphabet} {tag input : List Char} {q : Point}

theorem renumberedAll_literals (cs : List Char) : renumberedAll (literals cs) = literals cs := by
  induction cs with
  | nil => rfl
  | cons c cs ih => rw [literals_cons, renumberedAll, ih, Item.renumbered]

theorem paths_framed_literal :
    (literalExpression tag).framed.paths a input =
      allPaths a [blanks .possessive, .group (some 1) [] [] (literals tag), blanks .greedy,
        .group (some 2) [] [] (literals ['`'])] [] (Point.start input) := by
  show allPaths a (framedItems 1 (literals tag)) [] (Point.start input) = _
  rw [framedItems, renumberedAll_literals]
  rfl

/-- The blanks at the beginning are all passed; then follow the tag, some blanks and a backtick. -/
theorem exists_blanks_of_mem_paths (h : q ∈ (literalExpression tag).framed.paths a input) :
    (∃ w : List Char, w.all a.isBlank = true ∧
      input.dropWhile a.isBlank = tag ++ (w ++ '`' :: q.after)) ∧
      q.groups = [(2, ['`']), (1, tag)] := by
  rw [paths_framed_literal] at h
  simp only [mem_allPaths_cons, mem_allPaths_nil, paths_blanks_possessive, List.mem_singleton,
    exists_eq_left, mem_paths_group_literals, mem_paths_blanks] at h
  obtain ⟨_, ⟨p₁, h₁, rfl⟩, p₂, ⟨w, hw, h₂⟩, _, ⟨p₃, h₃, rfl⟩, rfl⟩ := h
  constructor
  · have htag : input.dropWhile a.isBlank = tag ++ p₁.after := h₁.after
    have hblanks : p₁.after = w ++ p₂.after := h₂.after
    exact ⟨w, hw, by rw [htag, hblanks, h₃.after]; rfl⟩
  · show (2, ['`']) :: p₃.groups = _
    rw [h₃.groups, h₂.groups]
    show (2, ['`']) :: (1, tag) :: p₁.groups = _
    rw [h₁.groups]
    rfl

/-- Where these stand, there is a way. -/
theorem exists_mem_paths {w rest : List Char} (hw : w.all a.isBlank = true)
    (h : input.dropWhile a.isBlank = tag ++ (w ++ '`' :: rest)) :
    ∃ q, q ∈ (literalExpression tag).framed.paths a input := by
  rw [paths_framed_literal]
  simp only [mem_allPaths_cons, mem_allPaths_nil, paths_blanks_possessive, List.mem_singleton,
    exists_eq_left, mem_paths_group_literals, mem_paths_blanks]
  exact ⟨_, _, ⟨_, Point.passes_past h, rfl⟩, _, ⟨w, hw, Point.passes_past rfl⟩, _,
    ⟨_, Point.passes_past rfl, rfl⟩, rfl⟩

/-- The tag stands behind the blanks if it begins with none. -/
theorem dropWhile_of_head {w : List Char} (hw : w.all a.isBlank = true) (more : List Char)
    (htag : ∀ c ∈ tag.head?, a.isBlank c = false) (hne : tag ≠ []) :
    (w ++ (tag ++ more)).dropWhile a.isBlank = tag ++ more := by
  rw [List.dropWhile_append_of_pos (List.all_eq_true.1 hw)]
  cases tag with
  | nil => exact absurd rfl hne
  | cons c cs =>
    have hc : ¬ a.isBlank c = true := by
      rw [htag c rfl]
      exact Bool.false_ne_true
    rw [List.cons_append, List.dropWhile_cons_of_neg hc]

/-- Who has passed all blanks does not stand before one. -/
theorem match?_eq_none_of_blank {c : Char} (hc : c ∈ tag.head?) (hblank : a.isBlank c = true)
    (input : List Char) : (literalExpression tag).framed.match? a input = none := by
  cases h : (literalExpression tag).framed.match? a input with
  | none => rfl
  | some q =>
    obtain ⟨⟨w, -, hdrop⟩, -⟩ := exists_blanks_of_mem_paths (mem_of_match? h)
    have hhead := List.head?_dropWhile_not a.isBlank input
    rw [hdrop, List.head?_append, Option.mem_def.1 hc] at hhead
    exact absurd (hblank.symm.trans hhead) (by decide)

/-- What begins with a literal matches it, with blanks around it and a backtick after it, if it does
not begin with a blank itself, and only then. -/
theorem match?_framed_literal_iff (a : Alphabet) (hne : tag ≠ []) :
    (∀ w₁ w₂ rest : List Char, w₁.all a.isBlank = true → w₂.all a.isBlank = true →
        ∃ q, (literalExpression tag).framed.match? a (w₁ ++ (tag ++ (w₂ ++ '`' :: rest))) = some q ∧
          q.groups.lookup 1 = some tag ∧ q.groups.lookup 2 = some ['`']) ↔
      ∀ c ∈ tag.head?, a.isBlank c = false := by
  refine ⟨fun hmatches c hc => ?_, fun htag w₁ w₂ rest hw₁ hw₂ => ?_⟩
  · obtain ⟨q, h, -⟩ := hmatches [] [] [] rfl rfl
    refine Bool.eq_false_iff.2 fun hblank => ?_
    rw [match?_eq_none_of_blank hc hblank] at h
    cases h
  · have hdrop := dropWhile_of_head hw₁ (w₂ ++ '`' :: rest) htag hne
    obtain ⟨q, hq⟩ := Option.isSome_iff_exists.1 (isSome_match?_iff.2 (exists_mem_paths hw₂ hdrop))
    have hgroups := (exists_blanks_of_mem_paths (mem_of_match? hq)).2
    refine ⟨q, hq, ?_, ?_⟩
    · rw [hgroups]
      rfl
    · rw [hgroups]
      rfl

/-! ## §4. Rules. -/

/-- What a literal rule compiles to. -/
theorem beginRegex_of_literal {engine : Option Engine} {text : String} {scope : List Char}
    {p : Pattern} (htext : text.toList = tag ++ ':' :: scope) (hlast : ':' ∉ scope)
    (hquotes : ∀ inner, tag ≠ inQuotes inner) (hcompile : compile engine text = .ok p) :
    tag ≠ [] ∧ p.beginRegex = Pattern.beginWith (String.ofList (escapeLiteral tag)) := by
  constructor
  · rintro rfl
    have hnone : parse text = .error (.invalidSpec text) :=
      parse_of_no_scope fun subject scope' htext' hscope' =>
        (eq_of_last_colon (htext'.symm.trans htext) hscope'.colon_notMem hlast).1
    rw [compile_of_parse_error hnone] at hcompile
    cases hcompile
  · obtain ⟨source, scope', hmeans, -, rfl⟩ := means_of_compile hcompile
    rw [(hmeans.unique (.literal htext hlast hquotes)).1]
    rfl

/-- **The pattern of a literal begins with the literal, blanks around it and a backtick, and with
nothing else; it begins with all of these if the literal does not begin with a blank, and only
then.** -/
theorem literal_matches_itself_iff (a : Alphabet) {engine : Option Engine} {text : String}
    {scope : List Char} {p : Pattern} (htext : text.toList = tag ++ ':' :: scope)
    (hlast : ':' ∉ scope) (hquotes : ∀ inner, tag ≠ inQuotes inner)
    (hcompile : compile engine text = .ok p) :
    ∃ e, read p.beginRegex.toList = .ok e ∧
      ((∀ w₁ w₂ rest : List Char, w₁.all a.isBlank = true → w₂.all a.isBlank = true →
          ∃ q, e.match? a (w₁ ++ (tag ++ (w₂ ++ '`' :: rest))) = some q ∧
            q.groups.lookup 1 = some tag ∧ q.groups.lookup 2 = some ['`']) ↔
        ∀ c ∈ tag.head?, a.isBlank c = false) ∧
      ∀ input q, e.match? a input = some q →
        ∃ w₁ w₂ rest : List Char, w₁.all a.isBlank = true ∧ w₂.all a.isBlank = true ∧
          input = w₁ ++ (tag ++ (w₂ ++ '`' :: rest)) := by
  obtain ⟨hne, hbegin⟩ := beginRegex_of_literal htext hlast hquotes hcompile
  refine ⟨_, hbegin ▸ read_beginWith_literal tag, match?_framed_literal_iff a hne, ?_⟩
  intro input q h
  obtain ⟨⟨w, hw, hdrop⟩, -⟩ := exists_blanks_of_mem_paths (mem_of_match? h)
  exact ⟨input.takeWhile a.isBlank, w, q.after, List.all_takeWhile, hw,
    by rw [← hdrop, List.takeWhile_append_dropWhile]⟩

/-- A literal with a blank inside is matched between blanks. -/
theorem literal_matches_itself_between_blanks :
    ∃ e, read (pattern ⟨.literal "a b", "s"⟩).beginRegex.toList = .ok e ∧
      ∃ q, e.match? .ascii "\ta b  `x".toList = some q ∧
        q.groups.lookup 1 = some "a b".toList ∧ q.groups.lookup 2 = some ['`'] := by
  have htext : "a b:s".toList = "a b".toList ++ ':' :: ['s'] := by decide
  have hquotes : ∀ inner, "a b".toList ≠ inQuotes inner := fun inner h =>
    absurd (isQuoted_iff.2 ⟨inner, h⟩) (by decide)
  have hcompile : compile none "a b:s" = .ok (pattern ⟨.literal "a b", "s"⟩) := by decide +kernel
  obtain ⟨e, hread, hiff, -⟩ :=
    literal_matches_itself_iff .ascii htext (by decide) hquotes hcompile
  have hhead : ∀ c ∈ "a b".toList.head?, Alphabet.ascii.isBlank c = false := by
    rintro _ ⟨⟩
    rfl
  exact ⟨e, hread, hiff.2 hhead ['\t'] [' ', ' '] ['x'] rfl rfl⟩

/-- A literal that begins with a blank is a rule, and its pattern begins with nothing. -/
theorem literal_never_matches :
    compile none " a:s" = .ok (pattern ⟨.literal " a", "s"⟩) ∧
      ∃ e, read (pattern ⟨.literal " a", "s"⟩).beginRegex.toList = .ok e ∧
        e.match? .ascii " a`".toList = none :=
  ⟨by decide +kernel, _, read_beginWith_literal " a".toList,
    match?_eq_none_of_blank (c := ' ') rfl (by decide) _⟩

end QuasiGrammar.Rule
