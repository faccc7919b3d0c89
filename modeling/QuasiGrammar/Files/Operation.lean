import QuasiGrammar.Files.Directory

/-
  QuasiGrammar.Files.Operation
  ────────────────────────────
  What a directory of grammars can be asked for, one after the other, and what
  its names should hold then: the texts that were written to them and have not
  been deleted since.
-/

namespace QuasiGrammar

open Text

/-- What a directory of grammars can be asked for. -/
inductive Operation where
  | hasFile (name : String)
  | list
  | write (name : String) (text : LooseText)
  | delete (name : String)
  deriving DecidableEq, Repr

/-- The name that an operation concerns. -/
def Operation.name? : Operation → Option String
  | .hasFile name | .write name _ | .delete name => some name
  | .list => none

namespace GrammarDirectory

/-- The tree after an operation, on a stack with room for a number of calls. -/
def apply (d : GrammarDirectory) (room : Option Nat) (t : FileTree) : Operation → FileTree
  | .hasFile _ | .list => t
  | .write name text => (d.writeWithin room t name text).1
  | .delete name => (d.delete t name).1

/-- The tree after some operations. -/
def after (d : GrammarDirectory) (room : Option Nat) (t : FileTree) (operations : List Operation) :
    FileTree :=
  operations.foldl (d.apply room) t

/-- Whether the path of a name in the directory is not too long as a whole. -/
def HasRoom (d : GrammarDirectory) (name : String) : Prop :=
  utf8Length (d.root.child name).text ≤ FileTree.maxPathLength

instance (d : GrammarDirectory) (name : String) : Decidable (d.HasRoom name) :=
  inferInstanceAs (Decidable (_ ≤ _))

/-- Texts by the names that hold them. -/
abbrev Contents := String → Option String

/-- What names hold after an operation, by what they held before.  A name without room is
refused, and a text without a UTF-8 form leaves nothing behind but an empty file. -/
def keep (d : GrammarDirectory) (contents : Contents) : Operation → Contents
  | .hasFile _ | .list => contents
  | .write name text => fun n => if n = name ∧ d.HasRoom name then some text.written else contents n
  | .delete name => fun n => if n = name ∧ d.HasRoom name then none else contents n

/-- What names hold after some operations, if they held nothing before. -/
def held (d : GrammarDirectory) (operations : List Operation) : Contents :=
  operations.foldl d.keep fun _ => none

end GrammarDirectory

end QuasiGrammar
