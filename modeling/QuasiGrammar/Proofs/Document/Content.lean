import Mathlib.Data.List.Forall2
import QuasiGrammar.Proofs.Document.Built
import QuasiGrammar.Proofs.Json.Documents

/-
  QuasiGrammar.Proofs.Document.Content
  ────────────────────────────────────
  **Two lists of rules have one text just if they mean the same, rule by rule.**

  Nothing is lost on the way from a rule to the text of the document:

      Rule.pattern_eq_iff     a pattern gives away the expression and the scope
      patterns_eq_iff         so patterns give away what their rules mean, in order
      Document.toJson_injective, Document.text_injective
                              a document can be read off its text

  so that a text that has been published before is one of rules that mean what
  they meant before, and no change of rules is taken for none.
-/

namespace QuasiGrammar

/-! ## §1. From rules to patterns, and back. -/

theorem Rule.SameSense.symm {a b : String} (h : SameSense a b) : SameSense b a := by
  obtain ⟨source, scope, ha, hb⟩ := h
  exact ⟨source, scope, hb, ha⟩

/-- A rule that compiles means something. -/
theorem Rule.Compiles.sameSense {engine : Option Engine} {rule : String}
    (h : Compiles engine rule) : SameSense rule rule := by
  obtain ⟨p, hp⟩ := h
  exact (pattern_eq_iff hp hp).1 rfl

/-- Rules have the same patterns just if they are as many and mean the same in order. -/
theorem Rule.patterns_eq_iff {engine engine' : Option Engine} {rules rules' : List String}
    {patterns patterns' : List Pattern} (h : rules.map (compile engine) = patterns.map .ok)
    (h' : rules'.map (compile engine') = patterns'.map .ok) :
    patterns = patterns' ↔ List.Forall₂ SameSense rules rules' := by
  induction rules generalizing rules' patterns patterns' with
  | nil =>
    obtain rfl := List.map_eq_nil_iff.1 h.symm
    rw [List.forall₂_nil_left_iff, ← List.map_eq_nil_iff (f := compile engine'), h',
      List.map_eq_nil_iff, eq_comm]
  | cons rule rest ih =>
    cases patterns with
    | nil => cases h
    | cons p ps =>
      cases rules' with
      | nil =>
        obtain rfl := List.map_eq_nil_iff.1 h'.symm
        simp
      | cons rule' rest' =>
        cases patterns' with
        | nil => cases h'
        | cons p' ps' =>
          simp only [List.map_cons, List.cons.injEq] at h h'
          rw [List.cons.injEq, List.forall₂_cons, pattern_eq_iff h.1 h'.1, ih h.2 h'.2]

/-- Literal rules that mean the same in order are the same. -/
theorem Rule.eq_of_forall₂_sameSense {rules rules' : List String}
    (h : List.Forall₂ SameSense rules rules') (hlit : ∀ r ∈ rules, IsLiteral r)
    (hlit' : ∀ r ∈ rules', IsLiteral r) : rules = rules' := by
  induction h with
  | nil => rfl
  | cons hsense _ ih =>
    rw [List.forall_mem_cons] at hlit hlit'
    rw [hlit.1.eq_of_sameSense hlit'.1 hsense, ih hlit.2 hlit'.2]

namespace Document

/-! ## §2. From the document to its text, and back. -/

/-- A document can be read off its text. -/
theorem text_injective {d e : Document} (h : d.text = e.text) : d = e := by
  have hread : Json.read? d.text = some d.toJson := (textual_toJson d).read?_pretty
  rw [h, text, (textual_toJson e).read?_pretty] at hread
  exact toJson_injective (Option.some.inj hread).symm

variable {engine engine' : Option Engine} {scopeName text text' : String}
  {rules rules' : List String}

/-- Rules have the same text just if they are as many and mean the same in order. -/
theorem text_eq_iff (h : build engine scopeName rules = .ok text)
    (h' : build engine' scopeName rules' = .ok text') :
    text = text' ↔ List.Forall₂ Rule.SameSense rules rules' := by
  obtain ⟨d, hd, -, rfl⟩ := build_eq_ok_iff.1 h
  obtain ⟨d', hd', -, rfl⟩ := build_eq_ok_iff.1 h'
  obtain ⟨hheader, hpatterns⟩ := ofRules_eq_ok_iff.1 hd
  obtain ⟨hheader', hpatterns'⟩ := ofRules_eq_ok_iff.1 hd'
  rw [← Rule.patterns_eq_iff hpatterns hpatterns']
  constructor
  · intro htext
    rw [text_injective htext]
  · intro hsame
    rw [hheader, hheader', hsame]

/-- The text of rules does not depend on the engine that has let them pass. -/
theorem text_eq_of_build (h : build engine scopeName rules = .ok text)
    (h' : build engine' scopeName rules = .ok text') : text = text' := by
  obtain ⟨-, hcompiles⟩ := compiles_of_build h
  exact (text_eq_iff h h').2
    (List.forall₂_same.2 fun rule hrule => (hcompiles rule hrule).sameSense)

/-! ## §3. What a change of rules does to the text. -/

/-- **The text of rules tells what they mean, and in which order.**  Whatever the engines, two lists
of rules under one scope name have the same text just if they are as many and stand for the same
expressions and scopes, place by place; literal rules have the same text only if they are the same.
Two rules that do not mean the same cannot trade places in a list without changing its text. -/
theorem text_eq_iff_sameSense (h : build engine scopeName rules = .ok text)
    (h' : build engine' scopeName rules' = .ok text') :
    (text = text' ↔ List.Forall₂ Rule.SameSense rules rules') ∧
      ((∀ r ∈ rules, Rule.IsLiteral r) → (∀ r ∈ rules', Rule.IsLiteral r) →
        (text = text' ↔ rules = rules')) ∧
      ∀ before a between b after, rules = before ++ a :: (between ++ b :: after) →
        ¬Rule.SameSense a b →
          (∃ swapped,
            build engine scopeName (before ++ b :: (between ++ a :: after)) = .ok swapped) ∧
          ∀ engine'' swapped,
            build engine'' scopeName (before ++ b :: (between ++ a :: after)) = .ok swapped →
              swapped ≠ text := by
  refine ⟨text_eq_iff h h', fun hlit hlit' => ?_, ?_⟩
  · constructor
    · intro htext
      exact Rule.eq_of_forall₂_sameSense ((text_eq_iff h h').1 htext) hlit hlit'
    · rintro rfl
      exact text_eq_of_build h h'
  · rintro before a between b after rfl hdiffer
    obtain ⟨hdotted, hcompiles⟩ := compiles_of_build h
    refine ⟨(exists_build_iff hdotted).2 fun rule hrule => hcompiles rule ?_, ?_⟩
    · simp only [List.mem_append, List.mem_cons] at hrule ⊢
      tauto
    · rintro engine'' swapped hswapped rfl
      have hsame := List.forall₂_drop before.length ((text_eq_iff hswapped h).1 rfl)
      rw [List.drop_left, List.drop_left, List.forall₂_cons] at hsame
      exact hdiffer hsame.1.symm

/-- A literal and the expression that matches it alone have one text, and two literals cannot trade
places. -/
theorem text_eq_iff_sameSense_escaped :
    ∃ text, build none "a.b" ["a+:x", "b:y"] = .ok text ∧
      build none "a.b" ["\"a\\+\":x", "b:y"] = .ok text ∧
      ∃ swapped, build none "a.b" ["b:y", "a+:x"] = .ok swapped ∧ swapped ≠ text := by
  have hdotted : TextForm.dotted.FoundIn "a.b" := ⟨_, Rule.isDotted_iff.1 (by decide), .inl rfl⟩
  have hliteral : ∀ inner, ['a', '+'] ≠ Rule.inQuotes inner :=
    fun _ h => absurd (List.cons.inj h).1 (by decide)
  have hfirst : Rule.IsLiteral "a+:x" := ⟨['a', '+'], ['x'], by decide, by decide, hliteral⟩
  have hsecond : Rule.IsLiteral "b:y" :=
    ⟨['b'], ['y'], by decide, by decide, fun _ h => absurd (List.cons.inj h).1 (by decide)⟩
  have hescaped : Rule.SameSense "a+:x" "\"a\\+\":x" :=
    ⟨_, _, .literal (show _ = ['a', '+'] ++ ':' :: ['x'] by decide) (by decide) hliteral,
      .regex (by decide) (by decide)⟩
  have hdiffer : ¬Rule.SameSense "a+:x" "b:y" :=
    fun h => absurd (hfirst.eq_of_sameSense hsecond h) (by decide)
  have hcompiles : ∀ rule ∈ ["a+:x", "\"a\\+\":x", "b:y"], Rule.Compiles none rule := by
    decide +kernel
  rw [List.forall_mem_cons, List.forall_mem_cons, List.forall_mem_singleton] at hcompiles
  obtain ⟨hplain, hquoted, hother⟩ := hcompiles
  obtain ⟨text, htext⟩ : ∃ text, build none "a.b" ["a+:x", "b:y"] = .ok text :=
    (exists_build_iff hdotted).2
      (List.forall_mem_cons.2 ⟨hplain, List.forall_mem_singleton.2 hother⟩)
  obtain ⟨text', htext'⟩ : ∃ text, build none "a.b" ["\"a\\+\":x", "b:y"] = .ok text :=
    (exists_build_iff hdotted).2
      (List.forall_mem_cons.2 ⟨hquoted, List.forall_mem_singleton.2 hother⟩)
  obtain ⟨hsame, -, hswap⟩ := text_eq_iff_sameSense htext htext'
  obtain ⟨⟨swapped, hswapped⟩, hne⟩ := hswap [] "a+:x" [] "b:y" [] rfl hdiffer
  have hboth : List.Forall₂ Rule.SameSense ["a+:x", "b:y"] ["\"a\\+\":x", "b:y"] :=
    .cons hescaped (.cons hother.sameSense .nil)
  exact ⟨text, htext, hsame.2 hboth ▸ htext', swapped, hswapped, hne none swapped hswapped⟩

end Document

end QuasiGrammar
