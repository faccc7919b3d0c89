import QuasiGrammar.Failure

/-
  QuasiGrammar.Publish.Program
  ────────────────────────────
  What publishing asks of its host, as data.  A program is a tree: it is done,
  or it tells the user something and goes on, or it makes a call and goes on as
  the answer says.  Each call is answered or fails; that the program cannot know
  which is what makes it a function of the answers.

  A program that can fail is `Work`; `ask` makes one call.
-/

namespace QuasiGrammar

/-! ## §1. Notices and calls. -/

/-- How serious a notice is. -/
inductive Level where
  | info
  | warning
  deriving DecidableEq, Repr

/-- Something that the user is told. -/
structure Notice where
  level : Level
  source : String
  text : String
  deriving DecidableEq, Repr

/-- A call of the host: of its grammar directory, or of its registry of grammars. -/
inductive Call where
  /-- Whether a name leads to a file. -/
  | exists (name : String)
  /-- The names in the directory. -/
  | list
  | write (name text : String)
  | delete (name : String)
  /-- Removes the grammar of a scope from the registry. -/
  | unregister (scope : String)
  /-- Registers the grammar in a file. -/
  | register (path : Path)
  deriving DecidableEq, Repr

/-- What a call is answered with. -/
@[reducible]
def Call.Answer : Call → Type
  | .exists _ => Bool
  | .list => List String
  | .write _ _ | .delete _ | .unregister _ | .register _ => Unit

/-! ## §2. Programs. -/

/-- A program: it makes calls and tells the user things. -/
inductive Program (α : Type) where
  | done (a : α)
  | notify (n : Notice) (next : Program α)
  | call (c : Call) (next : Except Failure c.Answer → Program α)

namespace Program

/-- The program that goes on with what another has come to. -/
def bind {α β : Type} : Program α → (α → Program β) → Program β
  | .done a, k => k a
  | .notify n next, k => .notify n (next.bind k)
  | .call c next, k => .call c fun r => (next r).bind k

instance : Monad Program where
  pure := .done
  bind := bind

theorem bind_done {α : Type} (p : Program α) : p.bind .done = p := by
  induction p with
  | done a => rfl
  | notify n next ih => simp [bind, ih]
  | call c next ih => simp [bind, ih]

theorem bind_assoc {α β γ : Type} (p : Program α) (f : α → Program β) (g : β → Program γ) :
    (p.bind f).bind g = p.bind fun a => (f a).bind g := by
  induction p with
  | done a => rfl
  | notify n next ih => simp [bind, ih]
  | call c next ih => simp [bind, ih]

instance : LawfulMonad Program :=
  LawfulMonad.mk' _ bind_done (fun _ _ => rfl) bind_assoc

end Program

/-- A program that can fail. -/
abbrev Work := ExceptT Failure Program

/-- Makes a call; its failure is the failure of the program. -/
def ask (c : Call) : Work c.Answer := ExceptT.mk (.call c .done)

/-- Tells the user something. -/
def tell (n : Notice) : Work Unit := ExceptT.mk (.notify n (.done (.ok ())))

end QuasiGrammar
