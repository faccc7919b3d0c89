import QuasiGrammar.Failure

/-
  QuasiGrammar.Files.Tree
  ───────────────────────
  A tree of files as a finite map from paths to entries.  The root is always a
  directory.  An operation walks to its path from the root: each name on the
  way must lead to a directory, and no name may be too long; what is refused
  first on the way decides.  A path that is too long as a whole is refused
  before that.

      look       the entry at a path
      makeDir    a new directory, in one that is there
      ensureDir  a directory with all directories above it
      nesting    how many calls that takes, one inside another
      write      a file with a text, in a directory that is there
      remove     no file any more
-/

namespace QuasiGrammar

open Text

/-! ## §1. Entries. -/

/-- What a path can lead to. -/
inductive Entry where
  | file (text : String)
  | directory
  deriving DecidableEq, Repr, Inhabited

/-- A tree of files. -/
structure FileTree where
  entries : List (Path × Entry)
  deriving DecidableEq, Repr, Inhabited

namespace FileTree

/-- A tree without files. -/
def empty : FileTree := ⟨[]⟩

/-- The entry of a path. -/
def get? (t : FileTree) (p : Path) : Option Entry :=
  if p = .root then some .directory else t.entries.lookup p

/-- The tree without the entry of a path. -/
def erase (t : FileTree) (p : Path) : FileTree := ⟨t.entries.filter fun e => e.1 ≠ p⟩

/-- The tree with an entry at a path. -/
def insert (t : FileTree) (p : Path) (e : Entry) : FileTree := ⟨(p, e) :: (t.erase p).entries⟩

theorem lookup_filter_ne {entries : List (Path × Entry)} {p q : Path} (h : q ≠ p) :
    (entries.filter fun e => e.1 ≠ p).lookup q = entries.lookup q := by
  induction entries with
  | nil => rfl
  | cons first rest ih =>
    obtain ⟨path, e⟩ := first
    by_cases hp : path = p
    · have hq : (q == path) = false := by simpa [hp] using h
      rw [List.filter_cons_of_neg (by simpa using hp), ih]
      simp only [List.lookup_cons, hq]
    · rw [List.filter_cons_of_pos (by simpa using hp)]
      simp only [List.lookup_cons, ih]

theorem get?_erase_of_ne (t : FileTree) {p q : Path} (h : q ≠ p) :
    (t.erase p).get? q = t.get? q := by
  unfold get? erase
  split
  · rfl
  · exact lookup_filter_ne h

theorem get?_erase_self (t : FileTree) {p : Path} (h : p ≠ .root) : (t.erase p).get? p = none := by
  simp only [get?, erase, if_neg h, List.lookup_eq_none_iff]
  intro e he
  have hne : e.1 ≠ p := by simpa using (List.mem_filter.1 he).2
  simpa using hne.symm

theorem get?_insert_self (t : FileTree) {p : Path} (h : p ≠ .root) (e : Entry) :
    (t.insert p e).get? p = some e := by
  simp [get?, insert, h]

theorem get?_insert_of_ne (t : FileTree) {p q : Path} (h : q ≠ p) (e : Entry) :
    (t.insert p e).get? q = t.get? q := by
  have hq : (q == p) = false := by simpa using h
  rw [← get?_erase_of_ne t h]
  unfold get? insert
  simp only [List.lookup_cons, hq]

/-! ## §2. Walking. -/

/-- The greatest length of a name, in octets. -/
def maxNameLength : Nat := 255

/-- The greatest length of a path, in octets. -/
def maxPathLength : Nat := 4095

/-- Entries by the names that lead to them from a directory. -/
abbrev Inside := List (List String × Entry)

/-- The entries inside the entry of a name. -/
def Inside.under (name : String) : Inside → Inside
  | [] => []
  | ([], _) :: rest => under name rest
  | (first :: names, e) :: rest =>
      if first = name then (names, e) :: under name rest else under name rest

/-- The entry that names lead to from an entry, by what is inside it. -/
def walk (here : Option Entry) (inside : Inside) : List String → Except Refusal (Option Entry)
  | [] => .ok here
  | name :: rest =>
      match here with
      | none => .error .noEntry
      | some (.file _) => .error .notDirectory
      | some .directory =>
          -- The length of a name counts only once the name is looked for.
          if maxNameLength < utf8Length name then .error .nameTooLong
          else
            let inner := inside.under name
            walk (inner.lookup []) inner rest

/-- The entries inside the root. -/
def inside (t : FileTree) : Inside := t.entries.map fun e => (e.1.names, e.2)

/-- The entry of a path, once every name on the way leads to a directory.  A path that is too long
is not followed at all. -/
def locate (t : FileTree) (p : Path) : Except Refusal (Option Entry) :=
  if maxPathLength < utf8Length p.text then .error .nameTooLong
  else walk (some .directory) t.inside p.names

theorem lookup_under (name : String) (inside : Inside) (names : List String) :
    (inside.under name).lookup names = inside.lookup (name :: names) := by
  -- An entry is inside the entry of its first name; one without names is the entry itself.
  induction inside with
  | nil => rfl
  | cons e rest ih =>
    obtain ⟨ns, e⟩ := e
    cases ns with
    | nil =>
      have h : ((name :: names) == ([] : List String)) = false := rfl
      simp only [Inside.under, List.lookup_cons, h, ih]
    | cons first ns =>
      by_cases h : first = name
      · subst h
        simp only [Inside.under, if_true, List.lookup_cons, List.cons_beq_cons, beq_self_eq_true,
          Bool.true_and, ih]
      · have hne : ((name :: names) == (first :: ns)) = false := by simp [Ne.symm h]
        simp only [Inside.under, if_neg h, List.lookup_cons, hne, ih]

theorem walk_eq_ok {here e : Option Entry} {inside : Inside} {names : List String}
    (h : walk here inside names = .ok e) :
    e = if names = [] then here else inside.lookup names := by
  induction names generalizing here inside with
  | nil => simp only [walk, Except.ok.injEq] at h; simp [← h]
  | cons name rest ih =>
    simp only [walk] at h
    split at h
    · cases h
    · cases h
    · split at h
      · cases h
      · have := ih h
        rw [if_neg (by simp), ← lookup_under]
        split at this
        · next hr => rw [hr]; exact this
        · exact this

theorem lookup_inside (t : FileTree) (names : List String) :
    t.inside.lookup names = t.entries.lookup ⟨names⟩ := by
  unfold inside
  induction t.entries with
  | nil => rfl
  | cons first rest ih =>
    obtain ⟨path, e⟩ := first
    have h : (names == path.names) = ((⟨names⟩ : Path) == path) := by
      rw [Bool.eq_iff_iff]
      simp [Path.ext_iff]
    simp only [List.map_cons, List.lookup_cons, h, ih]

theorem locate_eq_ok {t : FileTree} {p : Path} {e : Option Entry} (h : t.locate p = .ok e) :
    e = t.get? p := by
  unfold locate at h
  split at h
  · cases h
  · rw [walk_eq_ok h, lookup_inside, get?]
    simp [Path.root, Path.ext_iff]

/-! ## §3. Operations. -/

/-- The entry at a path. -/
def look (t : FileTree) (p : Path) : Except Refusal Entry :=
  match t.locate p with
  | .error r => .error r
  | .ok none => .error .noEntry
  | .ok (some e) => .ok e

/-- Makes a directory in one that is there. -/
def makeDir (t : FileTree) (p : Path) : Except Refusal FileTree :=
  match t.locate p with
  | .error r => .error r
  | .ok (some _) => .error .exists
  | .ok none => .ok (t.insert p .directory)

/-- The outcome of an operation that may have changed the tree before it was refused. -/
abbrev Changed := FileTree × Except SystemFault Unit

/-- Accepts the refusal to make a directory if a directory is there. -/
def acceptDir (t : FileTree) (p : Path) (r : Refusal) : Changed :=
  (t, if r = .exists ∧ t.get? p = some .directory then .ok () else .error ⟨r, p⟩)

/-- Makes a directory and those above it, as far as they are missing; the path is given by its
names from the last one upwards. -/
def ensureUpwards (t : FileTree) : List String → Changed
  | [] => (t, .ok ())
  | name :: above =>
      let p : Path := ⟨(name :: above).reverse⟩
      match t.makeDir p with
      | .ok t' => (t', .ok ())
      -- Something above is missing: it is made first, and what was made stays if that fails.
      | .error .noEntry =>
          match t.ensureUpwards above with
          | (t', .error f) => (t', .error f)
          | (t', .ok ()) =>
              match t'.makeDir p with
              | .ok t'' => (t'', .ok ())
              | .error r => t'.acceptDir p r
      -- Whoever made it first is welcome, as long as it is a directory.
      | .error r => t.acceptDir p r

/-- Makes a directory and those above it, as far as they are missing. -/
def ensureDir (t : FileTree) (p : Path) : Changed := t.ensureUpwards p.names.reverse

/-- How many calls stand inside the first one while a directory is made with those above it, one for
each directory that is missing above; the path is given by its names from the last one upwards. -/
def missingUpwards (t : FileTree) : List String → Nat
  | [] => 0
  | name :: above =>
      match t.makeDir ⟨(name :: above).reverse⟩ with
      | .error .noEntry => t.missingUpwards above + 1
      | _ => 0

/-- How many calls stand inside the first one while a directory is made with those above it.  All of
them are made before the first directory is. -/
def nesting (t : FileTree) (p : Path) : Nat := t.missingUpwards p.names.reverse

/-- Whether a directory cannot be made with those above it on a stack that has room for a number of
calls inside the first one; without a number there is room for all. -/
def exhausts (t : FileTree) (room : Option Nat) (p : Path) : Bool := room.any (· < t.nesting p)

/-- Writes a file in a directory that is there; a file of that name is replaced.  The text stands
for the octets that spell it. -/
def write (t : FileTree) (p : Path) (text : String) : Except Refusal FileTree :=
  match t.locate p with
  | .error r => .error r
  | .ok (some .directory) => .error .isDirectory
  | .ok _ => .ok (t.insert p (.file text))

/-- Removes a file. -/
def remove (t : FileTree) (p : Path) : Except Refusal FileTree :=
  match t.locate p with
  | .error r => .error r
  | .ok none => .error .noEntry
  | .ok (some .directory) => .error .isDirectory
  | .ok (some (.file _)) => .ok (t.erase p)

/-- Writes a file, after making the directories above it. -/
def place (t : FileTree) (p : Path) (text : String) : Changed :=
  match t.ensureDir p.parent with
  | (t', .error f) => (t', .error f)
  | (t', .ok ()) =>
      match t'.write p text with
      | .ok t'' => (t'', .ok ())
      | .error r => (t', .error ⟨r, p⟩)

/-! ## §4. Listings. -/

/-- The names of the entries of a directory, in order. -/
def children (t : FileTree) (dir : Path) : List String :=
  ((t.entries.filter fun e => e.1 ≠ .root && e.1.parent = dir).filterMap fun e =>
    e.1.name?).mergeSort (· ≤ ·)

/-- The names of the files below a directory with their texts, and those of the empty directories
with a slash at the end, in order. -/
def listing (t : FileTree) (dir : Path) : List (String × Option String) :=
  let below := t.entries.filter fun e => dir.isBelow e.1
  (below.filterMap fun e =>
    match e.2 with
    | .file text => some (dir.relativeTo e.1, some text)
    | .directory =>
        if (t.children e.1).isEmpty then some (dir.relativeTo e.1 ++ "/", none) else none).mergeSort
      fun a b => a.1 ≤ b.1

end FileTree

end QuasiGrammar
