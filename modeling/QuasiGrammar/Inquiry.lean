import QuasiGrammar.Document

/-
  QuasiGrammar.Inquiry
  ────────────────────
  Compiling and building, as programs that ask about expressions.  Such a program
  is a tree: it is done, or it asks about an expression and goes on as the verdict
  says.  What it asks about, how often and in which order, is part of it.

      run     what it comes to with an engine
      asked   what it asks an engine about on the way

  With an engine, the programs come to what `Rule.compile` and `Document.build`
  come to, and they ask about what `Rule.question?` and `Rule.questions` list.
-/

namespace QuasiGrammar

/-! ## §1. Programs that ask. -/

/-- A program that asks about expressions. -/
inductive Inquiry (α : Type) where
  | done (a : α)
  | ask (source : String) (next : Verdict → Inquiry α)

namespace Inquiry

variable {α β : Type}

/-- The program that goes on with what another has come to. -/
def bind : Inquiry α → (α → Inquiry β) → Inquiry β
  | .done a, k => k a
  | .ask source next, k => .ask source fun verdict => (next verdict).bind k

instance : Monad Inquiry where
  pure := .done
  bind := bind

/-- What a program comes to with an engine. -/
def run (engine : Engine) : Inquiry α → α
  | .done a => a
  | .ask source next => (next (engine source)).run engine

/-- The expressions that a program asks an engine about, in their order. -/
def asked (engine : Engine) : Inquiry α → List String
  | .done _ => []
  | .ask source next => source :: (next (engine source)).asked engine

theorem run_bind (engine : Engine) (m : Inquiry α) (k : α → Inquiry β) :
    (m.bind k).run engine = (k (m.run engine)).run engine := by
  induction m with
  | done a => rfl
  | ask source next ih => exact ih (engine source)

theorem asked_bind (engine : Engine) (m : Inquiry α) (k : α → Inquiry β) :
    (m.bind k).asked engine = m.asked engine ++ (k (m.run engine)).asked engine := by
  induction m with
  | done a => rfl
  | ask source next ih => exact congrArg (source :: ·) (ih (engine source))

end Inquiry

/-- A program that asks about expressions and can fail. -/
abbrev Asking := ExceptT Failure Inquiry

/-- Asks for the verdict on an expression. -/
def consult (source : String) : Asking Verdict := ExceptT.mk (.ask source fun v => .done (.ok v))

namespace Asking

variable {α β : Type} (engine : Engine)

/-- What a program that can fail comes to with an engine. -/
def outcome (m : Asking α) : Except Failure α := Inquiry.run engine m.run

/-- The expressions that a program that can fail asks an engine about. -/
def asks (m : Asking α) : List String := Inquiry.asked engine m.run

theorem outcome_bind (m : Asking α) (f : α → Asking β) :
    outcome engine (m >>= f) = outcome engine m >>= fun a => outcome engine (f a) := by
  show Inquiry.run engine (m.run.bind (ExceptT.bindCont f)) = _
  rw [Inquiry.run_bind]
  show _ = Inquiry.run engine m.run >>= fun a => outcome engine (f a)
  cases Inquiry.run engine m.run <;> rfl

/-- What follows a failure asks about nothing. -/
theorem asks_bind (m : Asking α) (f : α → Asking β) :
    asks engine (m >>= f) = asks engine m ++
      match outcome engine m with
      | .error _ => []
      | .ok a => asks engine (f a) := by
  show Inquiry.asked engine (m.run.bind (ExceptT.bindCont f)) = _
  rw [Inquiry.asked_bind]
  unfold outcome asks
  cases Inquiry.run engine m.run <;> rfl

theorem outcome_consult (source : String) :
    outcome engine (consult source) = .ok (engine source) := rfl

theorem asks_consult (source : String) : asks engine (consult source) = [source] := rfl

end Asking

/-! ## §2. Compiling. -/

namespace Rule

/-- The verdict on a rule; a literal needs none. -/
def judging (text : String) : Match → Asking Unit
  | .literal _ => pure ()
  | .regex source => do
      match ← consult source with
      | .unchecked | .accepted => pure ()
      | .rejected detail => throw (.fresh (.malformedRegex text source detail))
      | .failed f => throw f

/-- The pattern of a rule's text. -/
def compiling (text : String) : Asking Pattern :=
  match parse text with
  | .error p => throw (.fresh p)
  | .ok rule => do
      judging text rule.subject
      pure rule.pattern

/-- The patterns of rules in order. -/
def compilingAll : List String → Asking (List Pattern)
  | [] => pure []
  | text :: rest => do
      let p ← compiling text
      let ps ← compilingAll rest
      pure (p :: ps)

variable (engine : Engine)

theorem outcome_judging (text : String) (m : Match) :
    Asking.outcome engine (judging text m) = judge (some engine) text m := by
  cases m with
  | literal tag => rfl
  | regex source =>
    simp only [judging, Asking.outcome_bind, Asking.outcome_consult, judge]
    cases engine source <;> rfl

theorem asks_judging_regex (text source : String) :
    Asking.asks engine (judging text (.regex source)) = [source] := by
  simp only [judging, Asking.asks_bind, Asking.asks_consult, Asking.outcome_consult]
  cases engine source <;> rfl

/-- Compiling comes to what the rule compiles to. -/
theorem outcome_compiling (text : String) :
    Asking.outcome engine (compiling text) = compile (some engine) text := by
  unfold compiling compile
  cases parse text with
  | error p => rfl
  | ok rule =>
    simp only [Asking.outcome_bind, outcome_judging]
    cases judge (some engine) text rule.subject <;> rfl

/-- Compiling asks about the expression of the rule, once, if the rule reads well and has one. -/
theorem asks_compiling (text : String) :
    Asking.asks engine (compiling text) = (question? text).toList := by
  unfold compiling question?
  cases parse text with
  | error p => rfl
  | ok rule =>
    obtain ⟨subject, scope⟩ := rule
    cases subject with
    | literal tag => rfl
    | regex source =>
      simp only [Asking.asks_bind, asks_judging_regex]
      cases Asking.outcome engine (judging text (.regex source)) <;> rfl

/-- Compiling rules comes to what they compile to. -/
theorem outcome_compilingAll (texts : List String) :
    Asking.outcome engine (compilingAll texts) = compileAll (some engine) texts := by
  induction texts with
  | nil => rfl
  | cons text rest ih =>
    rw [compilingAll, Asking.outcome_bind, outcome_compiling, compileAll]
    cases compile (some engine) text with
    | error f => rfl
    | ok p =>
      show Asking.outcome engine (compilingAll rest >>= fun ps => pure (p :: ps)) = _
      rw [Asking.outcome_bind, ih]
      cases compileAll (some engine) rest <;> rfl

/-- Compiling rules asks about their expressions up to the first rule that does not compile. -/
theorem asks_compilingAll (texts : List String) :
    Asking.asks engine (compilingAll texts) = questions (some engine) texts := by
  induction texts with
  | nil => rfl
  | cons text rest ih =>
    rw [compilingAll, Asking.asks_bind, asks_compiling, outcome_compiling, questions]
    cases compile (some engine) text with
    | error f => rfl
    | ok p =>
      show _ ++ Asking.asks engine (compilingAll rest >>= fun ps => pure (p :: ps)) = _
      rw [Asking.asks_bind, ih]
      cases Asking.outcome engine (compilingAll rest) <;>
        exact congrArg _ (List.append_nil _)

end Rule

/-! ## §3. Building. -/

namespace Document

/-- The text of a document, if it fits the schema. -/
def checkedText (d : Document) : Asking String :=
  match d.check with
  | .error p => throw (.fresh p)
  | .ok () => pure d.text

/-- The text of the document of rules: the rules compile and the document fits the schema. -/
def building (scopeName : String) (rules : List String) : Asking String := do
  let patterns ← Rule.compilingAll rules
  checkedText { patterns := patterns, scopeName := scopeName }

variable (engine : Engine) (scopeName : String) (rules : List String)

theorem outcome_checkedText (d : Document) :
    Asking.outcome engine (checkedText d) =
      match d.check with
      | .error p => .error (.fresh p)
      | .ok () => .ok d.text := by
  unfold checkedText
  cases d.check <;> rfl

/-- Building comes to what the rules build. -/
theorem outcome_building :
    Asking.outcome engine (building scopeName rules) = build (some engine) scopeName rules := by
  rw [building, Asking.outcome_bind, Rule.outcome_compilingAll, build, ofRules]
  cases Rule.compileAll (some engine) rules with
  | error f => rfl
  | ok patterns => exact outcome_checkedText engine _

/-- The schema is not asked by asking the engine. -/
theorem asks_checkedText (d : Document) : Asking.asks engine (checkedText d) = [] := by
  unfold checkedText
  cases d.check <;> rfl

/-- Building asks about what compiling the rules asks about. -/
theorem asks_building :
    Asking.asks engine (building scopeName rules) = Rule.questions (some engine) rules := by
  rw [building, Asking.asks_bind, Rule.asks_compilingAll]
  simp only [asks_checkedText]
  cases Asking.outcome engine (Rule.compilingAll rules) <;> exact List.append_nil _

end Document

end QuasiGrammar
