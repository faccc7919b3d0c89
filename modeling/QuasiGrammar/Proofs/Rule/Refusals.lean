import QuasiGrammar.Proofs.Document.Built
import QuasiGrammar.Proofs.Regex.Oversized
import QuasiGrammar.Proofs.Rule.Failures

/-
  QuasiGrammar.Proofs.Rule.Refusals
  ─────────────────────────────────
  **A rule that does not compile is told its problem, unless the engine breaks down.**

  Of the engines that are at hand, the one that reads expressions itself is the only
  one that can break down (`failed_iff`), and it does so on numbers and lookbehinds
  that are too large (`Regex.Exceeds`).  All else that can go wrong with a rule is a
  problem that carries the text of the rule.
-/

namespace QuasiGrammar

variable {engine : Option Engine}

/-- An engine at hand breaks down on an expression just if it reads expressions itself and has come
to a defect. -/
theorem Engine.IsShipped.failed_iff {ask : Engine} (h : Engine.IsShipped (some ask))
    {source : String} {f : Failure} :
    ask source = .failed f ↔
      ask = Regex.engine ∧ ∃ d, Regex.read source.toList = .error (.defect d) ∧ f = .defect d := by
  have hreader : Regex.engine source = .failed f ↔
      ∃ d, Regex.read source.toList = .error (.defect d) ∧ f = .defect d := by
    unfold Regex.engine
    split
    · next hread => simp [hread]
    · next hread => simp [hread]
    · next hread => simp [hread, eq_comm]
  constructor
  · intro hfailed
    cases h with
    | absent => cases hfailed
    | reader => exact ⟨rfl, hreader.1 hfailed⟩
    | scanner build =>
      unfold Engine.ofScanner at hfailed
      split at hfailed <;> cases hfailed
  · rintro ⟨rfl, hdefect⟩
    exact hreader.2 hdefect

namespace Rule

variable {rule : String} {f : Failure}

/-- All ways in which a rule fails to compile: it does not read well, or its engine has been asked
and refuses the expression or breaks down. -/
theorem compile_eq_error_iff :
    compile engine rule = .error f ↔
      (∃ p, parse rule = .error p ∧ f = .fresh p) ∨
        ∃ ask source, engine = some ask ∧ question? rule = some source ∧
          ((∃ detail, ask source = .rejected detail ∧
              f = .fresh (.malformedRegex rule source detail)) ∨
            ask source = .failed f) := by
  unfold compile question?
  cases parse rule with
  | error p => simp [eq_comm]
  | ok r =>
    obtain ⟨subject, scope⟩ := r
    cases subject with
    | literal tag => simp [judge]
    | regex source =>
      cases engine with
      | none => simp [judge]
      | some ask =>
        cases hverdict : ask source <;> simp [judge, hverdict, eq_comm]

/-- The problems of a rule, which carry its text. -/
inductive IsAbout (rule : String) : Problem → Prop
  | invalidSpec : IsAbout rule (.invalidSpec rule)
  | invalidLiteral (literal : String) : IsAbout rule (.invalidLiteral rule literal)
  | malformedRegex (source detail : String) : IsAbout rule (.malformedRegex rule source detail)

/-- A rule compiles, or it is told a problem of its own. -/
def Settles (engine : Option Engine) (rule : String) : Prop :=
  Compiles engine rule ∨ ∃ p, IsAbout rule p ∧ compile engine rule = .error (.fresh p)

/-- The reader of expressions breaks down on the expression that it is asked about. -/
def BreaksDown (engine : Option Engine) (rule : String) (d : Defect) : Prop :=
  engine = some Regex.engine ∧
    ∃ source, question? rule = some source ∧ Regex.read source.toList = .error (.defect d)

theorem compile_of_breaksDown {d : Defect} (h : BreaksDown engine rule d) :
    compile engine rule = .error (.defect d) := by
  obtain ⟨rfl, source, hquestion, hread⟩ := h
  have hfailed := Engine.IsShipped.reader.failed_iff.2 ⟨rfl, d, hread, rfl⟩
  exact compile_eq_error_iff.2 (.inr ⟨_, source, rfl, hquestion, .inr hfailed⟩)

/-- A defect is no problem. -/
theorem not_settles_of_defect {d : Defect} (h : compile engine rule = .error (.defect d)) :
    ¬ Settles engine rule := by
  rintro (⟨p, hp⟩ | ⟨p, -, hp⟩)
  · cases hp.symm.trans h
  · cases hp.symm.trans h

theorem settles_or_breaksDown (h : Engine.IsShipped engine) (rule : String) :
    Settles engine rule ∨ ∃ d, BreaksDown engine rule d := by
  cases hrule : compile engine rule with
  | ok p => exact .inl (.inl ⟨p, hrule⟩)
  | error f =>
    obtain ⟨p, hparse, rfl⟩ | ⟨ask, source, rfl, hquestion, hverdict⟩ :=
      compile_eq_error_iff.1 hrule
    · refine .inl (.inr ⟨p, ?_, hrule⟩)
      obtain rfl | ⟨literal, rfl⟩ := parse_eq_error hparse
      · exact .invalidSpec
      · exact .invalidLiteral literal
    · obtain ⟨detail, -, rfl⟩ | hfailed := hverdict
      · exact .inl (.inr ⟨_, .malformedRegex source detail, hrule⟩)
      · obtain ⟨rfl, d, hread, -⟩ := h.failed_iff.1 hfailed
        exact .inr ⟨d, rfl, source, hquestion, hread⟩

/-- **A rule that does not compile is told its problem, unless the engine breaks down.**  With any
of the engines at hand or none, a rule compiles or fails with a problem that carries its text, just
if the engine is not the one that reads expressions itself, or it does not break down on the
expression of the rule.  Where it does, its defect is what the rule fails with, and something in the
expression is too large for it.  No other engine at hand breaks down on any expression. -/
theorem settles_iff (h : Engine.IsShipped engine) (rule : String) :
    (Settles engine rule ↔ ∀ d, ¬ BreaksDown engine rule d) ∧
      (∀ d, BreaksDown engine rule d → compile engine rule = .error (.defect d) ∧
        ∃ source, question? rule = some source ∧ Regex.Exceeds source.toList d) ∧
      ∀ ask, engine = some ask → ∀ source f, ask source = .failed f ↔
        ask = Regex.engine ∧
          ∃ d, Regex.read source.toList = .error (.defect d) ∧ f = .defect d := by
  refine ⟨⟨fun hsettles d hbreaks => ?_, fun hnone => ?_⟩,
    fun d hbreaks => ⟨compile_of_breaksDown hbreaks, ?_⟩, ?_⟩
  · exact not_settles_of_defect (compile_of_breaksDown hbreaks) hsettles
  · obtain hsettles | ⟨d, hbreaks⟩ := settles_or_breaksDown h rule
    · exact hsettles
    · exact absurd hbreaks (hnone d)
  · obtain ⟨-, source, hquestion, hread⟩ := hbreaks
    exact ⟨source, hquestion, Regex.exceeds_of_read hread⟩
  · rintro ask rfl source f
    exact h.failed_iff

/-- A group that is not closed is a problem of the rule, and a code point from `2 ^ 31` on is
none. -/
theorem settles_unclosed :
    Settles (some Regex.engine) "\"(\":s" ∧
      compile (some Regex.engine) "\"(\":s" =
        .error (.fresh (.malformedRegex "\"(\":s" "("
          "missing ), unterminated subpattern at position 0")) ∧
      compile (some Regex.engine) "\"\\U80000000\":s" = .error (.defect .codePointTooLarge) := by
  obtain ⟨hsettles, -, hfailed⟩ := settles_iff .reader "\"(\":s"
  obtain ⟨-, hbreaks, hfailed'⟩ := settles_iff .reader "\"\\U80000000\":s"
  refine ⟨hsettles.2 ?_, by decide +kernel, ?_⟩
  · rintro d ⟨-, source, hquestion, hread⟩
    have hsource : question? "\"(\":s" = some "(" := by decide +kernel
    have hverdict : Regex.engine "(" =
        .rejected "missing ), unterminated subpattern at position 0" := by decide +kernel
    cases hsource.symm.trans hquestion
    cases hverdict.symm.trans ((hfailed _ rfl "(" _).2 ⟨rfl, d, hread, rfl⟩)
  · have hsource : question? "\"\\U80000000\":s" = some "\\U80000000" := by decide +kernel
    have hverdict : Regex.engine "\\U80000000" = .failed (.defect .codePointTooLarge) := by
      decide +kernel
    obtain ⟨-, d, hread, hd⟩ := (hfailed' _ rfl _ _).1 hverdict
    cases hd
    exact (hbreaks _ ⟨rfl, _, hsource, hread⟩).1

/-- A repeat count beyond what an engine can count is no problem of the rule. -/
theorem not_settles_uncounted :
    compile none "\"a\x7b4294967295\x7d\":s" = .ok (pattern ⟨.regex "a\x7b4294967295\x7d", "s"⟩) ∧
      compile (some Regex.engine) "\"a\x7b4294967295\x7d\":s" = .error (.defect .repeatTooLarge) ∧
      ¬ Settles (some Regex.engine) "\"a\x7b4294967295\x7d\":s" := by
  have hfails : compile (some Regex.engine) "\"a\x7b4294967295\x7d\":s" =
      .error (.defect .repeatTooLarge) := by decide +kernel
  exact ⟨by decide +kernel, hfails, not_settles_of_defect hfails⟩

end Rule

end QuasiGrammar
