import QuasiGrammar.Text.Split

/-
  QuasiGrammar.Path
  ─────────────────
  An absolute path is the list of its names, from the root.  A name given by a
  user is followed from a base: it is cut at the slashes, an empty part and a
  single dot stay in place, two dots go one level up, and a leading slash
  starts at the root.  A name that holds a NUL names nothing.
-/

namespace QuasiGrammar

open Text

/-- An absolute path without dots, as its names from the root. -/
@[ext]
structure Path where
  names : List String
  deriving DecidableEq, Repr, Inhabited

namespace Path

/-- The root of all paths. -/
def root : Path := ⟨[]⟩

/-- The path with slashes. -/
def text (p : Path) : String := "/" ++ "/".intercalate p.names

/-- The path of an entry of a directory. -/
def child (p : Path) (name : String) : Path := ⟨p.names ++ [name]⟩

/-- The directory that holds the path; the root holds itself. -/
def parent (p : Path) : Path := ⟨p.names.dropLast⟩

/-- The last name of a path. -/
def name? (p : Path) : Option String := p.names.getLast?

/-- One part of a name, followed from a path. -/
def follow (p : Path) (part : List Char) : Path :=
  if part = [] || part = ['.'] then p
  else if part = ['.', '.'] then p.parent
  else p.child (String.ofList part)

/-- The path that a name leads to from a base; `none` for a name with a NUL. -/
def resolve? (base : Path) (name : String) : Option Path :=
  let cs := name.toList
  if cs.contains '\x00' then none
  else some ((splitAll '/' cs).foldl follow (if cs.head? = some '/' then root else base))

/-- Whether a path lies in a directory, at any depth. -/
def isBelow (dir p : Path) : Bool := dir.names.isPrefixOf p.names && dir != p

/-- A path below a directory, as a name relative to it. -/
def relativeTo (dir p : Path) : String := "/".intercalate (p.names.drop dir.names.length)

theorem resolve?_eq_none_iff {base : Path} {name : String} :
    base.resolve? name = none ↔ '\x00' ∈ name.toList := by
  simp [resolve?]

end Path

end QuasiGrammar
