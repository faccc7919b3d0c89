import QuasiGrammar.Engine
import QuasiGrammar.Pattern

/-
  QuasiGrammar.Rule.Compile
  ─────────────────────────
  A rule is read, its regular expression, if it has one, is shown to the
  engine, and its pattern is built.  The engine is asked last and only about
  expressions of rules that read well.
-/

namespace QuasiGrammar.Rule

/-- The expression that a rule's text has the engine asked about. -/
def question? (text : String) : Option String :=
  match parse text with
  | .ok ⟨.regex source, _⟩ => some source
  | _ => none

/-- The verdict of an engine on a rule; a literal needs none. -/
def judge (engine : Option Engine) (text : String) : Match → Except Failure Unit
  | .literal _ => .ok ()
  | .regex source =>
      match engine with
      | none => .ok ()
      | some ask =>
          match ask source with
          | .unchecked | .accepted => .ok ()
          | .rejected detail => .error (.fresh (.malformedRegex text source detail))
          | .failed f => .error f

/-- The pattern of a rule's text. -/
def compile (engine : Option Engine) (text : String) : Except Failure Pattern :=
  match parse text with
  | .error p => .error (.fresh p)
  | .ok rule =>
      match judge engine text rule.subject with
      | .error f => .error f
      | .ok () => .ok rule.pattern

/-- The patterns of rules in order, or the failure of the first rule that does not compile. -/
def compileAll (engine : Option Engine) : List String → Except Failure (List Pattern)
  | [] => .ok []
  | text :: rest =>
      match compile engine text with
      | .error f => .error f
      | .ok p =>
          match compileAll engine rest with
          | .error f => .error f
          | .ok ps => .ok (p :: ps)

/-- The expressions that the engine is asked about when rules are compiled in order: up to the
first rule that does not compile. -/
def questions (engine : Option Engine) : List String → List String
  | [] => []
  | text :: rest =>
      (question? text).toList ++
        match compile engine text with
        | .error _ => []
        | .ok _ => questions engine rest

theorem compileAll_eq_mapM (engine : Option Engine) (texts : List String) :
    compileAll engine texts = texts.mapM (compile engine) := by
  induction texts with
  | nil => rfl
  | cons text rest ih =>
    rw [List.mapM_cons, compileAll, ih]
    cases compile engine text with
    | error f => rfl
    | ok p => cases rest.mapM (compile engine) <;> rfl

end QuasiGrammar.Rule
