import QuasiGrammar.Document
import QuasiGrammar.Regex.Check

/-
  QuasiGrammar.Proofs.Rule.Failures
  ─────────────────────────────────
  **A document that cannot be built is nobody's news yet.**

  Neither rules nor the schema tell the user of a failure, and neither do the
  engines that are at hand: what such an engine breaks down with is a defect
  (`Engine.IsShipped`).
-/

namespace QuasiGrammar

/-- The engines that are at hand: none at all, the one of a host that has none, the one that reads
expressions itself, and those of hosts that build scanners. -/
inductive Engine.IsShipped : Option Engine → Prop
  | none : IsShipped none
  | absent : IsShipped (some Engine.absent)
  | reader : IsShipped (some Regex.engine)
  | scanner (build : List String → Except Failure Unit) : IsShipped (some (Engine.ofScanner build))

theorem Engine.IsShipped.isReported_failed {ask : Engine} (h : Engine.IsShipped (some ask))
    {source : String} {f : Failure} (hfailed : ask source = .failed f) : f.isReported = false := by
  cases h with
  | absent => cases hfailed
  | reader =>
    unfold Regex.engine at hfailed
    split at hfailed
    · cases hfailed
    · cases hfailed
    · cases hfailed
      rfl
  | scanner build =>
    unfold Engine.ofScanner at hfailed
    split at hfailed <;> cases hfailed

namespace Rule

variable {engine : Option Engine}

theorem isReported_judge (h : Engine.IsShipped engine) {text : String} {m : Match} {f : Failure}
    (hf : judge engine text m = .error f) : f.isReported = false := by
  unfold judge at hf
  split at hf
  · cases hf
  · split at hf
    · cases hf
    · split at hf
      · cases hf
      · cases hf
      · cases hf
        rfl
      · next hfailed =>
        cases hf
        exact h.isReported_failed hfailed

theorem isReported_compile (h : Engine.IsShipped engine) {text : String} {f : Failure}
    (hf : compile engine text = .error f) : f.isReported = false := by
  unfold compile at hf
  split at hf
  · cases hf
    rfl
  · split at hf
    · next hjudge =>
      cases hf
      exact isReported_judge h hjudge
    · cases hf

theorem isReported_compileAll (h : Engine.IsShipped engine) {rules : List String} {f : Failure}
    (hf : compileAll engine rules = .error f) : f.isReported = false := by
  induction rules with
  | nil => cases hf
  | cons text rest ih =>
    unfold compileAll at hf
    split at hf
    · next hcompile =>
      cases hf
      exact isReported_compile h hcompile
    · split at hf
      · next hrest =>
        cases hf
        exact ih hrest
      · cases hf

end Rule

/-- The user has not been told why a document cannot be built. -/
theorem Document.isReported_build {engine : Option Engine} (h : Engine.IsShipped engine)
    {scopeName : String} {rules : List String} {f : Failure}
    (hf : Document.build engine scopeName rules = .error f) : f.isReported = false := by
  unfold Document.build Document.ofRules at hf
  cases hrules : Rule.compileAll engine rules with
  | error f' =>
    simp only [hrules] at hf
    cases hf
    exact Rule.isReported_compileAll h hrules
  | ok patterns =>
    simp only [hrules] at hf
    split at hf
    · cases hf
      rfl
    · cases hf

end QuasiGrammar
