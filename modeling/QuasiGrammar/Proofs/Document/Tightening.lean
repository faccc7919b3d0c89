import QuasiGrammar.Inquiry
import QuasiGrammar.Proofs.Document.Built

/-
  QuasiGrammar.Proofs.Document.Tightening
  ───────────────────────────────────────
  **An engine refuses rules and does nothing else.**

  An engine that comes to a verdict on every expression stops a build at the
  first rule that does not compile without it, or whose expression it refuses
  (`Stops`).  Rules before that one compile as they do without an engine.  It is
  asked about the expressions of the rules up to that one, in order and once each;
  about a rule that does not compile without it, it is not asked.
-/

namespace QuasiGrammar

/-! ## §1. One rule. -/

namespace Rule

variable {v : Engine} {rule : String}

/-- The text between the quotes, if what stands before the last colon is in quotes. -/
def innerText? (rule : String) : Option String :=
  match Text.splitLast? ':' rule.toList with
  | some (subject, _) =>
      if isQuoted subject then some (String.ofList (unquoted subject)) else none
  | none => none

theorem innerText?_eq_some_iff {inner : String} :
    innerText? rule = some inner ↔
      ∃ scope, rule.toList = inQuotes inner.toList ++ ':' :: scope ∧ ':' ∉ scope := by
  unfold innerText?
  constructor
  · intro h
    split at h
    · next subject scope hcut =>
      obtain ⟨htext, hlast⟩ := Text.splitLast?_eq_some hcut
      split at h
      · next hquoted =>
        obtain ⟨cs, rfl⟩ := isQuoted_iff.1 hquoted
        rw [unquoted_inQuotes] at h
        cases h
        exact ⟨scope, by rwa [String.toList_ofList], hlast⟩
      · cases h
    · cases h
  · rintro ⟨scope, htext, hlast⟩
    rw [htext, Text.splitLast?_append hlast]
    simp only [isQuoted_inQuotes, unquoted_inQuotes, if_true, String.ofList_toList]

/-- The engine is asked about the text between the quotes. -/
theorem innerText?_of_parse {r : Rule} (h : parse rule = .ok r) :
    innerText? rule = match r.subject with
      | .regex source => some source
      | .literal _ => none := by
  obtain ⟨⟨subject, scope⟩, hsplit, h⟩ := bind_eq_ok_iff.1 h
  have hcut : Text.splitLast? ':' rule.toList = some (subject, scope) := by
    unfold split at hsplit
    split at hsplit
    · cases hsplit
    · next hcut => rw [hcut, Except.ok.inj hsplit]
  dsimp only at h
  split at h
  · cases h
  · obtain ⟨m, hmatch, h⟩ := bind_eq_ok_iff.1 h
    cases h
    unfold parseMatch at hmatch
    simp only [innerText?, hcut]
    split at hmatch
    · next hquoted =>
      rw [if_pos hquoted]
      split at hmatch
      · cases hmatch
      · cases hmatch
        rfl
    · next hquoted =>
      rw [if_neg hquoted]
      split at hmatch
      · cases hmatch
      · cases hmatch
        rfl

/-- A rule compiles without an engine just if it reads well. -/
theorem compiles_none_iff : Compiles none rule ↔ ∃ r, parse rule = .ok r := by
  unfold Compiles compile
  cases parse rule with
  | error p => simp
  | ok r => cases hr : r.subject <;> simp [judge, hr]

/-- The engine is asked about a rule just if the rule compiles without one and is in quotes. -/
theorem question?_eq (rule : String) :
    question? rule = if Compiles none rule then innerText? rule else none := by
  unfold question?
  cases hparse : parse rule with
  | error p =>
    have hbad : ¬ Compiles none rule := by
      rw [compiles_none_iff, hparse]
      simp
    rw [if_neg hbad]
  | ok r =>
    rw [if_pos (compiles_none_iff.2 ⟨r, hparse⟩), innerText?_of_parse hparse]
    obtain ⟨subject, scope⟩ := r
    cases subject <;> rfl

/-- A rule that stops a build under an engine. -/
inductive Stops (v : Engine) (rule : String) : Prop
  | alone (h : ¬ Compiles none rule)
  | refused {inner detail : String} (hinner : innerText? rule = some inner)
      (h : v inner = .rejected detail)

/-- What does not compile without an engine fails in the same way with any. -/
theorem compile_of_fails {engine : Option Engine} {f : Failure} (h : compile none rule = .error f) :
    compile engine rule = .error f := by
  unfold compile at h ⊢
  cases hparse : parse rule with
  | error p => rwa [hparse] at h
  | ok r =>
    rw [hparse] at h
    cases hr : r.subject <;> simp [judge, hr] at h

/-- A rule that compiles without an engine is malformed to an engine that refuses what stands
between its quotes. -/
theorem compile_of_refused {inner detail : String} (h : Compiles none rule)
    (hinner : innerText? rule = some inner) (hrefused : v inner = .rejected detail) :
    compile (some v) rule = .error (.fresh (.malformedRegex rule inner detail)) := by
  obtain ⟨⟨subject, scope⟩, hparse⟩ := compiles_none_iff.1 h
  rw [innerText?_of_parse hparse] at hinner
  cases subject with
  | literal tag => cases hinner
  | regex source =>
    cases hinner
    simp only [compile, hparse, judge_of_refuses ⟨v, rfl, hrefused⟩]

/-- A rule that stops a build fails with the engine. -/
theorem Stops.exists_error (h : Stops v rule) : ∃ f, compile (some v) rule = .error f := by
  cases hrule : compile none rule with
  | error f => exact ⟨f, compile_of_fails hrule⟩
  | ok p =>
    cases h with
    | alone hbad => exact absurd ⟨p, hrule⟩ hbad
    | refused hinner hrefused => exact ⟨_, compile_of_refused ⟨p, hrule⟩ hinner hrefused⟩

theorem compiles_none_of_not_stops (h : ¬ Stops v rule) : Compiles none rule := by
  by_contra hbad
  exact h (.alone hbad)

/-- A rule that does not stop a build compiles with the engine as it does without. -/
theorem compile_of_not_stops (hv : Judges (some v)) (h : ¬ Stops v rule) :
    compile (some v) rule = compile none rule := by
  obtain ⟨⟨subject, scope⟩, hparse⟩ := compiles_none_iff.1 (compiles_none_of_not_stops h)
  simp only [compile, hparse]
  cases subject with
  | literal tag => rfl
  | regex source =>
    rcases hv.passes_or_refuses source with hpass | ⟨detail, ask, hask, hrefused⟩
    · rw [judge_of_passes hpass]
      rfl
    · cases hask
      exact absurd (.refused (innerText?_of_parse hparse) hrefused) h

theorem compiles_of_not_stops (hv : Judges (some v)) (h : ¬ Stops v rule) :
    Compiles (some v) rule := by
  unfold Compiles
  rw [compile_of_not_stops hv h]
  exact compiles_none_of_not_stops h

/-- What stops a build is a rule that does not compile with the engine. -/
theorem not_stops_iff (hv : Judges (some v)) : ¬ Stops v rule ↔ Compiles (some v) rule := by
  constructor
  · exact compiles_of_not_stops hv
  · rintro ⟨p, hp⟩ hstops
    obtain ⟨f, hfails⟩ := hstops.exists_error
    cases hp.symm.trans hfails

/-- The engine of a host that has none lets every rule pass. -/
theorem compile_absent (rule : String) : compile (some Engine.absent) rule = compile none rule := by
  unfold compile
  cases parse rule with
  | error p => rfl
  | ok r => cases hr : r.subject <;> simp only [judge, hr, Engine.absent]

/-! ## §2. Rules. -/

theorem compileAll_congr {engine engine' : Option Engine} {rules : List String}
    (h : ∀ rule ∈ rules, compile engine rule = compile engine' rule) :
    compileAll engine rules = compileAll engine' rules := by
  induction rules with
  | nil => rfl
  | cons rule rest ih =>
    obtain ⟨hrule, hrest⟩ := List.forall_mem_cons.1 h
    rw [compileAll, compileAll, hrule, ih hrest]

/-- Rules that compile let the engine be asked about those after them. -/
theorem questions_append {engine : Option Engine} {before : List String}
    (h : ∀ rule ∈ before, Compiles engine rule) (rest : List String) :
    questions engine (before ++ rest) = before.filterMap question? ++ questions engine rest := by
  induction before with
  | nil => rfl
  | cons rule before ih =>
    obtain ⟨⟨p, hp⟩, hbefore⟩ := List.forall_mem_cons.1 h
    rw [List.cons_append, questions, hp, ih hbefore, List.filterMap_cons]
    cases question? rule <;> rfl

/-- The engine is asked about the rules in quotes among those that compile without it. -/
theorem filterMap_question? (rules : List String) :
    rules.filterMap question? =
      (rules.filter fun rule => decide (Compiles none rule)).filterMap innerText? := by
  rw [List.filterMap_filter, funext question?_eq]
  simp only [decide_eq_true_eq]

end Rule

/-! ## §3. Building. -/

namespace Document

variable {engine engine' : Option Engine} {scopeName : String} {rules : List String}

theorem build_congr (h : ∀ rule ∈ rules, Rule.compile engine rule = Rule.compile engine' rule) :
    build engine scopeName rules = build engine' scopeName rules := by
  unfold build ofRules
  rw [Rule.compileAll_congr h]

/-- Under any scope name, the first rule that does not compile stops a build. -/
theorem build_of_firstFailure {f : Failure} (h : Rule.FirstFailure engine rules f) :
    build engine scopeName rules = .error f := by
  unfold build
  rw [ofRules_eq_error_iff.2 h]

/-- The expressions in quotes among the rules that compile without an engine. -/
def quotedAmong (rules : List String) : List String :=
  (rules.filter fun rule => decide (Rule.Compiles none rule)).filterMap Rule.innerText?

variable {v : Engine}

/-- Without a rule that stops it, a build is what it is without an engine, and asks about all rules
in quotes. -/
theorem build_of_no_stop (hv : Rule.Judges (some v)) (h : ∀ rule ∈ rules, ¬ Rule.Stops v rule) :
    build (some v) scopeName rules = build none scopeName rules ∧
      Rule.questions (some v) rules = quotedAmong rules := by
  constructor
  · exact build_congr fun rule hrule => Rule.compile_of_not_stops hv (h rule hrule)
  · have hasked := Rule.questions_append
      (fun rule hrule => Rule.compiles_of_not_stops hv (h rule hrule)) []
    rw [List.append_nil, Rule.filterMap_question?] at hasked
    rw [hasked]
    exact List.append_nil _

/-- The first rule that stops a build, where it fails with an engine. -/
theorem build_of_stop (hv : Rule.Judges (some v)) (scopeName : String) {before : List String}
    {rule : String} (after : List String) (h : ∀ r ∈ before, ¬ Rule.Stops v r) {f : Failure}
    (hfails : Rule.compile (some v) rule = .error f) :
    build (some v) scopeName (before ++ rule :: after) = .error f ∧
      Rule.questions (some v) (before ++ rule :: after) = quotedAmong (before ++ [rule]) := by
  have hbefore : ∀ r ∈ before, Rule.Compiles (some v) r :=
    fun r hr => Rule.compiles_of_not_stops hv (h r hr)
  constructor
  · exact build_of_firstFailure ⟨before, rule, after, rfl, hbefore, hfails⟩
  · rw [Rule.questions_append hbefore, Rule.questions, hfails, quotedAmong,
      ← Rule.filterMap_question?, List.filterMap_append]
    cases hquestion : Rule.question? rule <;> simp [hquestion]

/-- **An engine refuses rules and does nothing else.**  For an engine that comes to a verdict on
every expression: if no rule stops it, a build is what it is without an engine.  Else it fails at
the first rule that stops it, with what the rule fails with without an engine, or, if the rule
compiles without one, with what the engine has against the expression.  Either way the engine is
asked about the expressions in quotes of the rules up to that one that compile without it, in their
order and once each.  The engine of a host that has none changes nothing. -/
theorem build_tightens {v : Engine} (hv : Rule.Judges (some v)) (scopeName : String)
    (rules : List String) :
    Asking.outcome v (building scopeName rules) = build (some v) scopeName rules ∧
      ((∀ rule ∈ rules, ¬ Rule.Stops v rule) →
        build (some v) scopeName rules = build none scopeName rules ∧
          Asking.asks v (building scopeName rules) = quotedAmong rules) ∧
      (∀ before rule after, rules = before ++ rule :: after →
        (∀ r ∈ before, ¬ Rule.Stops v r) → Rule.Stops v rule →
          (∀ f, Rule.compile none rule = .error f →
            build (some v) scopeName rules = .error f ∧ build none scopeName rules = .error f) ∧
          (∀ p, Rule.compile none rule = .ok p → ∃ inner detail,
            Rule.innerText? rule = some inner ∧ v inner = .rejected detail ∧
              build (some v) scopeName rules =
                .error (.fresh (.malformedRegex rule inner detail))) ∧
          Asking.asks v (building scopeName rules) = quotedAmong (before ++ [rule])) ∧
      build (some Engine.absent) scopeName rules = build none scopeName rules := by
  rw [asks_building]
  refine ⟨outcome_building v scopeName rules, build_of_no_stop hv, ?_, ?_⟩
  · rintro before rule after rfl hbefore hstops
    obtain ⟨f, hfails⟩ := hstops.exists_error
    obtain ⟨hbuild, hasked⟩ := build_of_stop hv scopeName after hbefore hfails
    refine ⟨fun g halone => ?_, fun p halone => ?_, hasked⟩
    · rw [Rule.compile_of_fails halone] at hfails
      cases hfails
      exact ⟨hbuild, build_of_firstFailure ⟨before, rule, after, rfl,
        fun r hr => Rule.compiles_none_of_not_stops (hbefore r hr), halone⟩⟩
    · cases hstops with
      | alone hbad => exact absurd ⟨p, halone⟩ hbad
      | @refused inner detail hinner hrefused =>
        rw [Rule.compile_of_refused ⟨p, halone⟩ hinner hrefused] at hfails
        cases hfails
        exact ⟨inner, detail, hinner, hrefused, hbuild⟩
  · exact build_congr fun rule _ => Rule.compile_absent rule

/-- The third rule stops a build, and the fourth is not looked at. -/
theorem build_tightens_third :
    build (some (Rule.onlyRefuses "(" "open group")) "a.b"
          ["\"a\":s", "b:t", "\"(\":s", "\"c\":s"] =
        .error (.fresh (.malformedRegex "\"(\":s" "(" "open group")) ∧
      Asking.asks (Rule.onlyRefuses "(" "open group")
          (building "a.b" ["\"a\":s", "b:t", "\"(\":s", "\"c\":s"]) = ["a", "("] ∧
      build (some (Rule.onlyRefuses "(" "open group")) "a.b" ["\"a\":s", "b:t"] =
        build none "a.b" ["\"a\":s", "b:t"] := by
  have hv := Rule.judges_onlyRefuses "(" "open group"
  have hbefore : ∀ rule ∈ ["\"a\":s", "b:t"],
      ¬ Rule.Stops (Rule.onlyRefuses "(" "open group") rule := by
    simp only [Rule.not_stops_iff hv]
    decide +kernel
  have hinner : Rule.innerText? "\"(\":s" = some "(" := by decide +kernel
  have hrefused : Rule.onlyRefuses "(" "open group" "(" = .rejected "open group" := by decide
  have halone : Rule.compile none "\"(\":s" = .ok (Rule.pattern ⟨.regex "(", "s"⟩) := by
    decide +kernel
  have hasks : quotedAmong ["\"a\":s", "b:t", "\"(\":s"] = ["a", "("] := by decide +kernel
  obtain ⟨-, hsame, -⟩ := build_tightens hv "a.b" ["\"a\":s", "b:t"]
  obtain ⟨-, -, hfails, -⟩ := build_tightens hv "a.b" ["\"a\":s", "b:t", "\"(\":s", "\"c\":s"]
  obtain ⟨-, hmalformed, hasked⟩ := hfails ["\"a\":s", "b:t"] "\"(\":s" ["\"c\":s"] rfl hbefore
    (.refused hinner hrefused)
  obtain ⟨inner, detail, hinner', hrefused', hbuild⟩ := hmalformed _ halone
  cases hinner.symm.trans hinner'
  cases hrefused.symm.trans hrefused'
  exact ⟨hbuild, hasked.trans hasks, (hsame hbefore).1⟩

end Document

end QuasiGrammar
