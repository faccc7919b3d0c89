import Mathlib.Data.List.Induction
import QuasiGrammar.Rule.Compile

/-
  QuasiGrammar.Proofs.Rule.Form
  ─────────────────────────────
  **A rule compiles just if it has the form of a rule, and else it is told what is wrong.**

  The form is a grammar of its own, which knows nothing of how a rule is read:

      rule     match ":" scope
      scope    name, or name "#" name
      name     words with single dots between them
      match    a regular expression between quotes, or a literal without a bare quote

  The reader cuts at the last colon and at every dot and number sign, and counts
  backslashes on its way (§1 to §3: each of its tests accepts its part of the
  grammar).  `compile_iff_form` is the whole: what a rule compiles to, and which
  of three problems it has if it does not.
-/

namespace QuasiGrammar.Rule

open Text

/-! ## §1. Names of scopes. -/

/-- A letter of ASCII, then letters, digits and low lines of ASCII. -/
def Word (cs : List Char) : Prop :=
  ∃ c rest, cs = c :: rest ∧ c.isAlpha = true ∧ ∀ d ∈ rest, d.isAlphanum = true ∨ d = '_'

/-- Words with single dots between them. -/
inductive DottedName : List Char → Prop
  | word {w : List Char} (hw : Word w) : DottedName w
  | dot {w rest : List Char} (hw : Word w) (hrest : DottedName rest) :
      DottedName (w ++ '.' :: rest)

/-- A name, and maybe a number sign and one more name. -/
inductive ScopeForm : List Char → Prop
  | whole {name : List Char} (hname : DottedName name) : ScopeForm name
  | part {name inner : List Char} (hname : DottedName name) (hinner : DottedName inner) :
      ScopeForm (name ++ '#' :: inner)

theorem isWord_iff {cs : List Char} : isWord cs = true ↔ Word cs := by
  cases cs with
  | nil => simp [isWord, Word]
  | cons c rest =>
    simp only [isWord, isWordChar, Bool.and_eq_true, List.all_eq_true, Bool.or_eq_true, beq_iff_eq]
    constructor
    · rintro ⟨hc, hrest⟩
      exact ⟨c, rest, rfl, hc, hrest⟩
    · rintro ⟨_, _, heq, hc, hrest⟩
      cases heq
      exact ⟨hc, hrest⟩

/-- A word holds no sign but the low line. -/
theorem Word.notMem {cs : List Char} (h : Word cs) {c : Char} (halnum : c.isAlphanum = false)
    (hline : c ≠ '_') : c ∉ cs := by
  obtain ⟨first, rest, rfl, hfirst, hrest⟩ := h
  intro hc
  rcases List.mem_cons.1 hc with rfl | hc
  · rw [Char.isAlphanum, hfirst] at halnum
    cases halnum
  · rcases hrest c hc with h | h
    · rw [h] at halnum
      cases halnum
    · exact hline h

/-- A name holds no sign but the low line and the dot. -/
theorem DottedName.notMem {cs : List Char} (h : DottedName cs) {c : Char}
    (halnum : c.isAlphanum = false) (hline : c ≠ '_') (hdot : c ≠ '.') : c ∉ cs := by
  induction h with
  | word hw => exact hw.notMem halnum hline
  | dot hw _ ih =>
    intro hc
    rcases List.mem_append.1 hc with hc | hc
    · exact hw.notMem halnum hline hc
    · rcases List.mem_cons.1 hc with hc | hc
      · exact hdot hc
      · exact ih hc

theorem isDotted_of_dottedName {cs : List Char} (h : DottedName cs) : isDotted cs = true := by
  induction h with
  | word hw =>
    rw [isDotted, splitAll_of_notMem (hw.notMem rfl (by decide)), List.all_cons, isWord_iff.2 hw]
    rfl
  | dot hw _ ih =>
    rw [isDotted, splitAll_append (hw.notMem rfl (by decide)), List.all_cons, isWord_iff.2 hw]
    exact ih

theorem dottedName_of_isDotted {cs : List Char} (h : isDotted cs = true) : DottedName cs := by
  -- The first dot ends a word, and what follows it is shorter.
  by_cases hdot : '.' ∈ cs
  · obtain ⟨w, rest, rfl, hw⟩ := List.eq_append_cons_of_mem hdot
    rw [isDotted, splitAll_append hw, List.all_cons, Bool.and_eq_true] at h
    exact .dot (isWord_iff.1 h.1) (dottedName_of_isDotted h.2)
  · rw [isDotted, splitAll_of_notMem hdot, List.all_cons, Bool.and_eq_true] at h
    exact .word (isWord_iff.1 h.1)
termination_by cs.length
decreasing_by
  subst_vars
  simp only [List.length_append, List.length_cons]
  omega

theorem isDotted_iff {cs : List Char} : isDotted cs = true ↔ DottedName cs :=
  ⟨dottedName_of_isDotted, isDotted_of_dottedName⟩

theorem isScope_iff {cs : List Char} : isScope cs = true ↔ ScopeForm cs := by
  constructor
  · intro h
    unfold isScope at h
    by_cases hsign : '#' ∈ cs
    · obtain ⟨name, inner, rfl, hname⟩ := List.eq_append_cons_of_mem hsign
      rw [splitAll_append hname] at h
      by_cases hagain : '#' ∈ inner
      · -- Two number signs make three parts or more.
        obtain ⟨second, rest, rfl, hsecond⟩ := List.eq_append_cons_of_mem hagain
        rw [splitAll_append hsecond] at h
        cases hrest : splitAll '#' rest with
        | nil => exact absurd hrest (splitAll_ne_nil '#' rest)
        | cons third more =>
          rw [hrest] at h
          cases h
      · rw [splitAll_of_notMem hagain] at h
        obtain ⟨hn, hi⟩ := Bool.and_eq_true_iff.1 h
        exact .part (isDotted_iff.1 hn) (isDotted_iff.1 hi)
    · rw [splitAll_of_notMem hsign] at h
      exact .whole (isDotted_iff.1 h)
  · intro h
    have hsign : ∀ {name : List Char}, DottedName name → '#' ∉ name :=
      fun hn => hn.notMem rfl (by decide) (by decide)
    unfold isScope
    cases h with
    | whole hname =>
      rw [splitAll_of_notMem (hsign hname)]
      exact isDotted_iff.2 hname
    | part hname hinner =>
      rw [splitAll_append (hsign hname), splitAll_of_notMem (hsign hinner)]
      exact Bool.and_eq_true_iff.2 ⟨isDotted_iff.2 hname, isDotted_iff.2 hinner⟩

/-- A scope holds no colon, so the colon before it is the last one. -/
theorem ScopeForm.colon_notMem {cs : List Char} (h : ScopeForm cs) : ':' ∉ cs := by
  have hcolon : ∀ {name : List Char}, DottedName name → ':' ∉ name :=
    fun hn => hn.notMem rfl (by decide) (by decide)
  cases h with
  | whole hname => exact hcolon hname
  | part hname hinner =>
    intro hc
    rcases List.mem_append.1 hc with hc | hc
    · exact hcolon hname hc
    · rcases List.mem_cons.1 hc with hc | hc
      · cases hc
      · exact hcolon hinner hc

/-! ## §2. Quotes. -/

/-- A text between double quotes. -/
def inQuotes (inner : List Char) : List Char := '"' :: (inner ++ ['"'])

theorem unquoted_inQuotes (inner : List Char) : unquoted (inQuotes inner) = inner := by
  simp [unquoted, inQuotes]

theorem isQuoted_inQuotes (inner : List Char) : isQuoted (inQuotes inner) = true := by
  have hlast : (inQuotes inner).getLast? = some '"' := List.getLast?_concat (l := '"' :: inner)
  simp only [isQuoted, hlast]
  simp [inQuotes]

/-- What is quoted is in quotes; one quote alone is not. -/
theorem isQuoted_iff {cs : List Char} : isQuoted cs = true ↔ ∃ inner, cs = inQuotes inner := by
  constructor
  · intro h
    simp only [isQuoted, Bool.and_eq_true, decide_eq_true_eq, beq_iff_eq] at h
    obtain ⟨⟨hlen, hhead⟩, hlast⟩ := h
    obtain ⟨rest, rfl⟩ := List.head?_eq_some_iff.1 hhead
    obtain ⟨before, hbefore⟩ := List.getLast?_eq_some_iff.1 hlast
    cases before with
    | nil =>
      rw [hbefore] at hlen
      simp at hlen
    | cons first inner =>
      rw [List.cons_append, List.cons.injEq] at hbefore
      exact ⟨inner, by rw [inQuotes, hbefore.2]⟩
  · rintro ⟨inner, rfl⟩
    exact isQuoted_inQuotes inner

/-! ## §3. Bare quotes. -/

/-- The number of backslashes at the end of a text. -/
def trailingBackslashes (cs : List Char) : Nat := (cs.reverse.takeWhile (· == '\\')).length

/-- Whether a text holds a quote right after an even number of backslashes. -/
def HoldsBareQuote (cs : List Char) : Prop :=
  ∃ before after, cs = before ++ '"' :: after ∧ trailingBackslashes before % 2 = 0

/-- Whether the run of backslashes at the end of a text is of even length, `even` telling it of the
run before the text. -/
def evenAfter (even : Bool) (cs : List Char) : Bool :=
  cs.foldl (fun even c => if c = '\\' then !even else true) even

theorem trailingBackslashes_concat (cs : List Char) (c : Char) :
    trailingBackslashes (cs ++ [c]) = if c = '\\' then trailingBackslashes cs + 1 else 0 := by
  unfold trailingBackslashes
  by_cases hc : c = '\\'
  · simp [hc]
  · simp [hc]

theorem evenAfter_true (cs : List Char) :
    evenAfter true cs = decide (trailingBackslashes cs % 2 = 0) := by
  -- The last character decides, so the list is taken from its end.
  induction cs using List.reverseRecOn with
  | nil => rfl
  | append_singleton before c ih =>
    have hlast : evenAfter true (before ++ [c]) =
        if c = '\\' then !evenAfter true before else true := by
      simp [evenAfter, List.foldl_append]
    rw [hlast, trailingBackslashes_concat, ih]
    by_cases hc : c = '\\'
    · simp only [hc, if_true]
      by_cases heven : trailingBackslashes before % 2 = 0
      · have : ¬ (trailingBackslashes before + 1) % 2 = 0 := by omega
        simp [heven, this]
      · have : (trailingBackslashes before + 1) % 2 = 0 := by omega
        simp [heven, this]
    · simp [hc]

/-- The scan for a bare quote finds one that follows an even run. -/
theorem hasBareQuote_iff_evenAfter {even : Bool} {cs : List Char} :
    hasBareQuote even cs = true ↔
      ∃ before after, cs = before ++ '"' :: after ∧ evenAfter even before = true := by
  induction cs generalizing even with
  | nil => simp [hasBareQuote]
  | cons c rest ih =>
    have hscan : hasBareQuote even (c :: rest) = true ↔
        (c = '"' ∧ even = true) ∨
          hasBareQuote (if c = '\\' then !even else true) rest = true := by
      by_cases hq : c = '"'
      · subst hq
        simp [hasBareQuote]
      · by_cases hb : c = '\\'
        · subst hb
          simp [hasBareQuote]
        · rw [hasBareQuote]
          · simp [hq, hb]
          · exact hq
          · exact hb
    rw [hscan, ih]
    constructor
    · rintro (⟨rfl, heven⟩ | ⟨before, after, rfl, hbefore⟩)
      · exact ⟨[], rest, rfl, heven⟩
      · exact ⟨c :: before, after, rfl, hbefore⟩
    · rintro ⟨before, after, hcs, hbefore⟩
      cases before with
      | nil =>
        rw [List.nil_append, List.cons.injEq] at hcs
        exact .inl ⟨hcs.1, hbefore⟩
      | cons d before =>
        rw [List.cons_append, List.cons.injEq] at hcs
        obtain ⟨rfl, rfl⟩ := hcs
        exact .inr ⟨before, after, rfl, hbefore⟩

theorem hasBareQuote_iff {cs : List Char} : hasBareQuote true cs = true ↔ HoldsBareQuote cs := by
  simp only [hasBareQuote_iff_evenAfter, evenAfter_true, decide_eq_true_eq, HoldsBareQuote]

/-! ## §4. The form of a rule. -/

/-- No engine refuses an expression; without an engine none does. -/
def Passes (engine : Option Engine) (source : String) : Prop :=
  ∀ ask ∈ engine, ask source = .accepted ∨ ask source = .unchecked

/-- The engine refuses an expression, for a reason that it gives. -/
def Refuses (engine : Option Engine) (source detail : String) : Prop :=
  ∃ ask ∈ engine, ask source = .rejected detail

/-- An engine that comes to a verdict on every expression. -/
def Judges (engine : Option Engine) : Prop :=
  ∀ ask ∈ engine, ∀ source f, ask source ≠ .failed f

/-- A match, and the regular expression that it stands for. -/
inductive MatchForm (engine : Option Engine) : List Char → String → Prop
  /-- An expression in quotes stands for itself. -/
  | regex {inner : List Char} (hne : inner ≠ []) (hpass : Passes engine (String.ofList inner)) :
      MatchForm engine (inQuotes inner) (String.ofList inner)
  /-- A literal stands for the expression that matches it alone. -/
  | literal {tag : List Char} (hne : tag ≠ []) (hquotes : ∀ inner, tag ≠ inQuotes inner)
      (hbare : ¬ HoldsBareQuote tag) : MatchForm engine tag (String.ofList (escapeLiteral tag))

/-- A rule that is in order, and its pattern. -/
inductive RuleForm (engine : Option Engine) (text : String) : Pattern → Prop
  | rule {subject scope : List Char} {source : String}
      (htext : text.toList = subject ++ ':' :: scope) (hscope : ScopeForm scope)
      (hmatch : MatchForm engine subject source) :
      RuleForm engine text
        { contentName := String.ofList (scope.takeWhile (· != '#'))
          beginRegex := "\\s*+(" ++ source ++ ")\\s*(`)"
          endRegex := Pattern.endRegexSource
          includeScope := String.ofList scope
          nestedInclude := Pattern.nestedGrammar }

/-- A rule that is not in order, and its problem. -/
inductive Trouble (engine : Option Engine) (text : String) : Problem → Prop
  /-- The engine refuses the expression in quotes. -/
  | malformed {inner scope : List Char} {detail : String}
      (htext : text.toList = inQuotes inner ++ ':' :: scope) (hscope : ScopeForm scope)
      (hne : inner ≠ []) (hrefused : Refuses engine (String.ofList inner) detail) :
      Trouble engine text (.malformedRegex text (String.ofList inner) detail)
  /-- The literal holds a bare quote. -/
  | bareQuote {tag scope : List Char} (htext : text.toList = tag ++ ':' :: scope)
      (hscope : ScopeForm scope) (hquotes : ∀ inner, tag ≠ inQuotes inner)
      (hbare : HoldsBareQuote tag) :
      Trouble engine text (.invalidLiteral text (String.ofList tag))
  /-- No colon has a scope after it and a match before it that is not empty, quotes apart. -/
  | noRule
      (hno : ∀ subject scope, text.toList = subject ++ ':' :: scope → ScopeForm scope →
        subject = [] ∨ subject = inQuotes []) :
      Trouble engine text (.invalidSpec text)

/-- What the reader makes of a text with a scope after a colon. -/
theorem parse_of_scope {text : String} {subject scope : List Char}
    (htext : text.toList = subject ++ ':' :: scope) (hscope : ScopeForm scope) (hne : subject ≠ []) :
    parse text = (parseMatch text subject).map fun m => ⟨m, String.ofList scope⟩ := by
  have hsplit : split text = .ok (subject, scope) := by
    rw [split, htext, splitLast?_append hscope.colon_notMem]
  have hgood : ¬ (subject = [] || !isScope scope) = true := by
    simp [hne, isScope_iff.2 hscope]
  rw [parse, hsplit]
  show (if (subject = [] || !isScope scope) = true then _ else _) = _
  rw [if_neg hgood]
  cases parseMatch text subject with
  | error p => rfl
  | ok m => rfl

/-- Without such a colon the reader refuses the text. -/
theorem parse_of_no_scope {text : String}
    (hno : ∀ subject scope, text.toList = subject ++ ':' :: scope → ScopeForm scope →
      subject = []) : parse text = .error (.invalidSpec text) := by
  rw [parse]
  cases hcut : splitLast? ':' text.toList with
  | none => rw [split, hcut]; rfl
  | some parts =>
    obtain ⟨subject, scope⟩ := parts
    have hbad : (subject = [] || !isScope scope) = true := by
      by_cases hscope : isScope scope = true
      · simp [hno subject scope (splitLast?_eq_some hcut).1 (isScope_iff.1 hscope)]
      · simp [hscope]
    rw [split, hcut]
    show (if (subject = [] || !isScope scope) = true then _ else _) = _
    rw [if_pos hbad]

theorem compile_of_parse_error {engine : Option Engine} {text : String} {p : Problem}
    (h : parse text = .error p) : compile engine text = .error (.fresh p) := by
  rw [compile, h]

/-- A rule in quotes is compiled if the engine lets its expression pass. -/
theorem compile_inQuotes {engine : Option Engine} {text : String} {inner scope : List Char}
    (htext : text.toList = inQuotes inner ++ ':' :: scope) (hscope : ScopeForm scope)
    (hne : inner ≠ []) :
    compile engine text =
      (judge engine text (.regex (String.ofList inner))).map fun _ =>
        pattern ⟨.regex (String.ofList inner), String.ofList scope⟩ := by
  have hparse : parse text = .ok ⟨.regex (String.ofList inner), String.ofList scope⟩ := by
    rw [parse_of_scope htext hscope (by simp [inQuotes]), parseMatch,
      if_pos (isQuoted_inQuotes inner), unquoted_inQuotes, if_neg hne]
    rfl
  simp only [compile, hparse]
  cases judge engine text (.regex (String.ofList inner)) with
  | error f => rfl
  | ok _ => rfl

/-- A rule that is not in quotes is compiled unless it holds a bare quote. -/
theorem compile_literal {engine : Option Engine} {text : String} {tag scope : List Char}
    (htext : text.toList = tag ++ ':' :: scope) (hscope : ScopeForm scope) (hne : tag ≠ [])
    (hquotes : ∀ inner, tag ≠ inQuotes inner) :
    compile engine text =
      if hasBareQuote true tag = true then
        .error (.fresh (.invalidLiteral text (String.ofList tag)))
      else .ok (pattern ⟨.literal (String.ofList tag), String.ofList scope⟩) := by
  have hplain : ¬ isQuoted tag = true := by
    intro hq
    obtain ⟨inner, hinner⟩ := isQuoted_iff.1 hq
    exact hquotes inner hinner
  have hparse := parse_of_scope htext hscope hne
  rw [parseMatch, if_neg hplain] at hparse
  by_cases hbare : hasBareQuote true tag = true
  · rw [if_pos hbare] at hparse ⊢
    exact compile_of_parse_error hparse
  · rw [if_neg hbare] at hparse ⊢
    rw [compile, hparse]
    rfl

/-! ## §5. Compiling. -/

theorem judge_of_passes {engine : Option Engine} {source : String} (h : Passes engine source)
    (text : String) : judge engine text (.regex source) = .ok () := by
  cases engine with
  | none => rfl
  | some ask => rcases h ask rfl with hv | hv <;> simp [judge, hv]

theorem judge_of_refuses {engine : Option Engine} {source detail : String}
    (h : Refuses engine source detail) (text : String) :
    judge engine text (.regex source) = .error (.fresh (.malformedRegex text source detail)) := by
  obtain ⟨ask, hask, hv⟩ := h
  cases hask
  simp [judge, hv]

/-- An engine that always comes to a verdict lets an expression pass or refuses it. -/
theorem Judges.passes_or_refuses {engine : Option Engine} (h : Judges engine) (source : String) :
    Passes engine source ∨ ∃ detail, Refuses engine source detail := by
  cases engine with
  | none => exact .inl fun ask hask => nomatch hask
  | some ask =>
    cases hv : ask source with
    | unchecked => exact .inl fun _ hask => by cases hask; exact .inr hv
    | accepted => exact .inl fun _ hask => by cases hask; exact .inl hv
    | rejected detail => exact .inr ⟨detail, ask, rfl, hv⟩
    | failed f => exact absurd hv (h ask rfl source f)

/-- A rule in order compiles to its pattern. -/
theorem RuleForm.compile_eq {engine : Option Engine} {text : String} {p : Pattern}
    (h : RuleForm engine text p) : compile engine text = .ok p := by
  obtain ⟨htext, hscope, hmatch⟩ := h
  cases hmatch with
  | regex hne hpass =>
    rw [compile_inQuotes htext hscope hne, judge_of_passes hpass]
    simp [Except.map, pattern, Pattern.baseScope, Pattern.beginWith, Match.source]
  | literal hne hquotes hbare =>
    rw [compile_literal htext hscope hne hquotes, if_neg (mt hasBareQuote_iff.1 hbare)]
    simp [pattern, Pattern.baseScope, Pattern.beginWith, Match.source]

/-- A rule out of order is told its problem. -/
theorem Trouble.compile_eq {engine : Option Engine} {text : String} {q : Problem}
    (h : Trouble engine text q) : compile engine text = .error (.fresh q) := by
  cases h with
  | malformed htext hscope hne hrefused =>
    rw [compile_inQuotes htext hscope hne, judge_of_refuses hrefused]
    rfl
  | bareQuote htext hscope hquotes hbare =>
    have hne : ∀ {tag : List Char}, HoldsBareQuote tag → tag ≠ [] := by
      rintro _ ⟨before, after, rfl, -⟩
      simp
    rw [compile_literal htext hscope (hne hbare) hquotes, if_pos (hasBareQuote_iff.2 hbare)]
  | noRule hno =>
    by_cases hempty : ∃ scope, text.toList = inQuotes [] ++ ':' :: scope ∧ ScopeForm scope
    · -- The quotes hold nothing.
      obtain ⟨scope, htext, hscope⟩ := hempty
      have hparse := parse_of_scope htext hscope (by simp [inQuotes])
      rw [parseMatch, if_pos (isQuoted_inQuotes []), if_pos (unquoted_inQuotes [])] at hparse
      exact compile_of_parse_error hparse
    · refine compile_of_parse_error (parse_of_no_scope fun subject scope htext hscope => ?_)
      rcases hno subject scope htext hscope with h | h
      · exact h
      · exact absurd ⟨scope, h ▸ htext, hscope⟩ hempty

/-- Every rule is in order or has a problem. -/
theorem Judges.ruleForm_or_trouble {engine : Option Engine} (h : Judges engine) (text : String) :
    (∃ p, RuleForm engine text p) ∨ ∃ q, Trouble engine text q := by
  by_cases hrule : ∃ subject scope, text.toList = subject ++ ':' :: scope ∧ ScopeForm scope ∧
      subject ≠ [] ∧ subject ≠ inQuotes []
  · obtain ⟨subject, scope, htext, hscope, hne, hfull⟩ := hrule
    by_cases hquotes : ∃ inner, subject = inQuotes inner
    · obtain ⟨inner, rfl⟩ := hquotes
      have hinner : inner ≠ [] := fun he => hfull (by rw [he])
      rcases h.passes_or_refuses (String.ofList inner) with hpass | ⟨detail, hrefused⟩
      · exact .inl ⟨_, .rule htext hscope (.regex hinner hpass)⟩
      · exact .inr ⟨_, .malformed htext hscope hinner hrefused⟩
    · have hquotes : ∀ inner, subject ≠ inQuotes inner := fun inner he => hquotes ⟨inner, he⟩
      by_cases hbare : HoldsBareQuote subject
      · exact .inr ⟨_, .bareQuote htext hscope hquotes hbare⟩
      · exact .inl ⟨_, .rule htext hscope (.literal hne hquotes hbare)⟩
  · refine .inr ⟨_, .noRule fun subject scope htext hscope => ?_⟩
    by_contra hboth
    obtain ⟨hne, hfull⟩ := not_or.1 hboth
    exact hrule ⟨subject, scope, htext, hscope, hne, hfull⟩

/-- **A rule compiles just if it has the form of a rule.**  For an engine that comes to a verdict on
every expression, or none: a text compiles to the pattern of the one way in which it is a rule, with
the expression between the quotes as it stands, or the literal escaped.  A text that does not compile
has one of three problems, which come in this order: it is no rule, its literal holds a bare quote,
or the engine refuses the expression in quotes. -/
theorem compile_iff_form (engine : Option Engine) (hengine : Judges engine) (text : String) :
    (∀ p, compile engine text = .ok p ↔ RuleForm engine text p) ∧
      ∀ f, compile engine text = .error f ↔ ∃ q, Trouble engine text q ∧ f = .fresh q := by
  constructor
  · intro p
    refine ⟨fun hok => ?_, RuleForm.compile_eq⟩
    rcases hengine.ruleForm_or_trouble text with ⟨p', hform⟩ | ⟨q, htrouble⟩
    · cases hok.symm.trans hform.compile_eq
      exact hform
    · cases hok.symm.trans htrouble.compile_eq
  · intro f
    constructor
    · intro hfail
      rcases hengine.ruleForm_or_trouble text with ⟨p, hform⟩ | ⟨q, htrouble⟩
      · cases hfail.symm.trans hform.compile_eq
      · exact ⟨q, htrouble, Except.error.inj (hfail.symm.trans htrouble.compile_eq)⟩
    · rintro ⟨q, htrouble, rfl⟩
      exact htrouble.compile_eq

/-- An engine that refuses one expression. -/
def onlyRefuses (source detail : String) : Engine := fun other =>
  if other = source then .rejected detail else .accepted

theorem judges_onlyRefuses (source detail : String) :
    Judges (some (onlyRefuses source detail)) := by
  intro ask hask other f
  cases hask
  unfold onlyRefuses
  split <;> simp

/-- The engine refuses a group that is open.  An expression may hold colons and end in a backslash,
and a quote alone makes a literal, which is bare. -/
theorem compile_iff_form_refused :
    Judges (some (onlyRefuses "(:" "open group")) ∧
      compile (some (onlyRefuses "(:" "open group")) "\"(:\":a.b#c" =
        .error (.fresh (.malformedRegex "\"(:\":a.b#c" "(:" "open group")) ∧
      (compile (some (onlyRefuses "(:" "open group")) "\"x:\\\":a.b#c").map (·.contentName) =
        .ok "a.b" ∧
      compile (some (onlyRefuses "(:" "open group")) "\":a" =
        .error (.fresh (.invalidLiteral "\":a" "\"")) := by
  have hjudges := judges_onlyRefuses "(:" "open group"
  have hscope : ScopeForm ['a', '.', 'b', '#', 'c'] := isScope_iff.1 (by decide)
  have hform := fun text => compile_iff_form _ hjudges text
  refine ⟨hjudges, ?_, ?_, ?_⟩
  · refine ((hform _).2 _).2
      ⟨_, .malformed (show _ = inQuotes ['(', ':'] ++ ':' :: _ by decide) hscope (by decide) ?_, rfl⟩
    exact ⟨_, rfl, by decide⟩
  · have hrule : RuleForm (some (onlyRefuses "(:" "open group")) "\"x:\\\":a.b#c" _ :=
      .rule (by decide) hscope (.regex (show ['x', ':', '\\'] ≠ [] by decide) ?_)
    · rw [((hform _).1 _).2 hrule]
      decide
    · intro ask hask
      cases hask
      exact .inl (by decide)
  · refine ((hform _).2 _).2 ⟨_, .bareQuote (show _ = ['"'] ++ ':' :: ['a'] by decide)
      (isScope_iff.1 (by decide)) ?_ ⟨[], [], by decide, by decide⟩, rfl⟩
    intro inner h
    simpa [inQuotes] using congrArg List.length h

end QuasiGrammar.Rule
