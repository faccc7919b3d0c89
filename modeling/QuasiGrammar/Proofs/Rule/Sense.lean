import QuasiGrammar.Proofs.Rule.Form

/-
  QuasiGrammar.Proofs.Rule.Sense
  ──────────────────────────────
  What a rule stands for: the expression of its match, and its scope.

      Means               cut at the last colon, without regard to whether the
                          scope is one and whether the engine likes the match
      means_of_compile    a pattern is made of what its rule means, and nothing else
      pattern_eq_iff      so two rules have one pattern just if they mean the same

  A literal can be told from its expression, since escaping is one-to-one.
-/

namespace QuasiGrammar.Rule

open Text

/-! ## §1. The meaning of a rule. -/

/-- The expression and the scope that a rule stands for.  What stands before the last colon is an
expression in quotes, which stands for itself, or a literal, which stands for the expression that
matches it alone. -/
inductive Means (text : String) : String → String → Prop
  | regex {inner scope : List Char} (htext : text.toList = inQuotes inner ++ ':' :: scope)
      (hlast : ':' ∉ scope) : Means text (String.ofList inner) (String.ofList scope)
  | literal {tag scope : List Char} (htext : text.toList = tag ++ ':' :: scope)
      (hlast : ':' ∉ scope) (hquotes : ∀ inner, tag ≠ inQuotes inner) :
      Means text (String.ofList (escapeLiteral tag)) (String.ofList scope)

/-- A rule whose match is not in quotes. -/
def IsLiteral (text : String) : Prop :=
  ∃ tag scope, text.toList = tag ++ ':' :: scope ∧ ':' ∉ scope ∧ ∀ inner, tag ≠ inQuotes inner

/-- Two rules stand for the same expression and the same scope. -/
def SameSense (a b : String) : Prop := ∃ source scope, Means a source scope ∧ Means b source scope

/-- The last colon is where it is. -/
theorem eq_of_last_colon {before before' scope scope' : List Char}
    (h : before ++ ':' :: scope = before' ++ ':' :: scope') (hlast : ':' ∉ scope)
    (hlast' : ':' ∉ scope') : before = before' ∧ scope = scope' := by
  have hcut := splitLast?_append hlast before
  rw [h, splitLast?_append hlast', Option.some.injEq, Prod.mk.injEq] at hcut
  exact ⟨hcut.1.symm, hcut.2.symm⟩

/-- A rule stands for one thing only. -/
theorem Means.unique {text source scope source' scope' : String} (h : Means text source scope)
    (h' : Means text source' scope') : source = source' ∧ scope = scope' := by
  cases h with
  | regex htext hlast =>
    cases h' with
    | regex htext' hlast' =>
      obtain ⟨hinner, hscope⟩ := eq_of_last_colon (htext.symm.trans htext') hlast hlast'
      have hinner := congrArg unquoted hinner
      rw [unquoted_inQuotes, unquoted_inQuotes] at hinner
      exact ⟨congrArg _ hinner, congrArg _ hscope⟩
    | literal htext' hlast' hquotes =>
      exact absurd (eq_of_last_colon (htext'.symm.trans htext) hlast' hlast).1 (hquotes _)
  | literal htext hlast hquotes =>
    cases h' with
    | regex htext' hlast' =>
      exact absurd (eq_of_last_colon (htext.symm.trans htext') hlast hlast').1 (hquotes _)
    | literal htext' hlast' _ =>
      obtain ⟨htag, hscope⟩ := eq_of_last_colon (htext.symm.trans htext') hlast hlast'
      exact ⟨congrArg (String.ofList ∘ escapeLiteral) htag, congrArg _ hscope⟩

/-! ## §2. Literals. -/

theorem escapeLiteral_cons (c : Char) (cs : List Char) :
    escapeLiteral (c :: cs) =
      (if c = '\\' || metaChars.contains c then ['\\', c] else [c]) ++ escapeLiteral cs := rfl

/-- A literal can be told from the expression that matches it alone: a backslash in the expression
always escapes the character after it. -/
theorem escapeLiteral_injective {cs ds : List Char} (h : escapeLiteral cs = escapeLiteral ds) :
    cs = ds := by
  induction cs generalizing ds with
  | nil =>
    cases ds with
    | nil => rfl
    | cons d ds =>
      rw [escapeLiteral_cons] at h
      split at h <;> cases h
  | cons c cs ih =>
    cases ds with
    | nil =>
      rw [escapeLiteral_cons] at h
      split at h <;> cases h
    | cons d ds =>
      rw [escapeLiteral_cons, escapeLiteral_cons] at h
      by_cases hc : (c = '\\' || metaChars.contains c) = true
      · by_cases hd : (d = '\\' || metaChars.contains d) = true
        · rw [if_pos hc, if_pos hd] at h
          simp only [List.cons_append, List.nil_append, List.cons.injEq, true_and] at h
          rw [h.1, ih h.2]
        · -- Only an escape begins with a backslash.
          rw [if_pos hc, if_neg hd] at h
          simp only [List.cons_append, List.nil_append, List.cons.injEq] at h
          exact absurd (by simp [← h.1]) hd
      · by_cases hd : (d = '\\' || metaChars.contains d) = true
        · rw [if_neg hc, if_pos hd] at h
          simp only [List.cons_append, List.nil_append, List.cons.injEq] at h
          exact absurd (by simp [h.1]) hc
        · rw [if_neg hc, if_neg hd] at h
          simp only [List.cons_append, List.nil_append, List.cons.injEq] at h
          rw [h.1, ih h.2]

/-- Literal rules that mean the same are the same. -/
theorem IsLiteral.eq_of_sameSense {a b : String} (ha : IsLiteral a) (hb : IsLiteral b)
    (h : SameSense a b) : a = b := by
  obtain ⟨tag, scope, htext, hlast, hquotes⟩ := ha
  obtain ⟨tag', scope', htext', hlast', hquotes'⟩ := hb
  obtain ⟨source, scopeName, hmeans, hmeans'⟩ := h
  obtain ⟨rfl, rfl⟩ := hmeans.unique (.literal htext hlast hquotes)
  obtain ⟨hsource, hscope⟩ := hmeans'.unique (.literal htext' hlast' hquotes')
  have htag := escapeLiteral_injective (String.ofList_injective hsource)
  rw [← String.toList_inj, htext, htext', htag, String.ofList_injective hscope]

/-! ## §3. Patterns. -/

/-- What has been read as a rule stands for the expression and the scope of it. -/
theorem means_of_parse {text : String} {r : Rule} (h : parse text = .ok r) :
    Means text r.subject.source r.scope ∧ ScopeForm r.scope.toList := by
  by_cases hrule : ∃ subject scope, text.toList = subject ++ ':' :: scope ∧ ScopeForm scope ∧
      subject ≠ []
  · obtain ⟨subject, scope, htext, hscope, hne⟩ := hrule
    have hlast := hscope.colon_notMem
    rw [parse_of_scope htext hscope hne, parseMatch] at h
    by_cases hquoted : isQuoted subject = true
    · obtain ⟨inner, rfl⟩ := isQuoted_iff.1 hquoted
      rw [if_pos hquoted, unquoted_inQuotes] at h
      split at h
      · cases h
      · cases h
        exact ⟨.regex htext hlast, by rwa [String.toList_ofList]⟩
    · have hquotes : ∀ inner, subject ≠ inQuotes inner :=
        fun inner he => hquoted (isQuoted_iff.2 ⟨inner, he⟩)
      rw [if_neg hquoted] at h
      split at h
      · cases h
      · cases h
        refine ⟨?_, by rwa [String.toList_ofList]⟩
        rw [Match.source, String.toList_ofList]
        exact .literal htext hlast hquotes
  · rw [parse_of_no_scope fun subject scope htext hscope => ?_] at h
    · cases h
    · by_contra hne
      exact hrule ⟨subject, scope, htext, hscope, hne⟩

/-- The pattern of an expression and a scope. -/
def patternOf (source scope : String) : Pattern :=
  ⟨Pattern.baseScope scope, Pattern.beginWith source, Pattern.endRegexSource, scope,
    Pattern.nestedGrammar⟩

theorem patternOf_inj {source scope source' scope' : String} :
    patternOf source scope = patternOf source' scope' ↔ source = source' ∧ scope = scope' := by
  constructor
  · intro h
    have hbegin := congrArg (fun p : Pattern => p.beginRegex.toList) h
    simp only [patternOf, Pattern.beginWith, String.toList_append, List.append_assoc,
      List.append_cancel_left_eq] at hbegin
    exact ⟨String.toList_inj.1 (List.append_cancel_right hbegin), congrArg Pattern.includeScope h⟩
  · rintro ⟨rfl, rfl⟩
    rfl

/-- Whatever engine has let it pass, a pattern is made of what its rule means. -/
theorem means_of_compile {engine : Option Engine} {text : String} {p : Pattern}
    (h : compile engine text = .ok p) :
    ∃ source scope, Means text source scope ∧ ScopeForm scope.toList ∧
      p = patternOf source scope := by
  unfold compile at h
  split at h
  · cases h
  · next r hparse =>
    split at h
    · cases h
    · cases h
      obtain ⟨hmeans, hscope⟩ := means_of_parse hparse
      exact ⟨_, _, hmeans, hscope, rfl⟩

/-- Two rules have one pattern just if they mean the same. -/
theorem pattern_eq_iff {engine engine' : Option Engine} {a b : String} {p q : Pattern}
    (ha : compile engine a = .ok p) (hb : compile engine' b = .ok q) : p = q ↔ SameSense a b := by
  obtain ⟨source, scope, hmeans, -, rfl⟩ := means_of_compile ha
  obtain ⟨source', scope', hmeans', -, rfl⟩ := means_of_compile hb
  rw [patternOf_inj]
  constructor
  · rintro ⟨rfl, rfl⟩
    exact ⟨source, scope, hmeans, hmeans'⟩
  · rintro ⟨source₀, scope₀, h, h'⟩
    obtain ⟨rfl, rfl⟩ := hmeans.unique h
    exact ⟨(hmeans'.unique h').1.symm, (hmeans'.unique h').2.symm⟩

end QuasiGrammar.Rule
