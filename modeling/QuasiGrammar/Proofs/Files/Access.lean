import QuasiGrammar.Proofs.Files.Place

/-
  QuasiGrammar.Proofs.Files.Access
  ────────────────────────────────
  In a directory with an open way nothing is refused: a question is answered, a
  listing given, a file written, and what is no directory deleted.  The way
  stays open.
-/

namespace QuasiGrammar

open Text

namespace FileTree

variable {t : FileTree} {p : Path}

/-- What is in the directory does not stand on the way to it. -/
theorem OpenTo.of_child_change {u : FileTree} {name : String} (h : t.OpenTo p)
    (hsame : ∀ q, q ≠ p.child name → u.get? q = t.get? q) : u.OpenTo p := by
  refine ⟨?_, h.shortNames, h.shortPath⟩
  intro q hq text
  have hne : q ≠ p.child name := by
    rintro rfl
    exact child_not_above p name hq
  rw [hsame q hne]
  exact h.noFile q hq text

theorem OpenTo.insert_child {name : String} (h : t.OpenTo p) (e : Entry) :
    (t.insert (p.child name) e).OpenTo p :=
  h.of_child_change fun _ hne => get?_insert_of_ne t hne e

theorem OpenTo.erase_child {name : String} (h : t.OpenTo p) : (t.erase (p.child name)).OpenTo p :=
  h.of_child_change fun _ hne => get?_erase_of_ne t hne

end FileTree

namespace GrammarDirectory

/-- A name leads to an entry of the directory, and is not too long for it. -/
structure Fits (d : GrammarDirectory) (name : String) : Prop where
  resolves : d.resolve name = .ok (d.root.child name)
  shortName : utf8Length name ≤ FileTree.maxNameLength
  shortPath : utf8Length (d.root.child name).text ≤ FileTree.maxPathLength

variable {d : GrammarDirectory} {t : FileTree} {name : String}

/-- What a name leads to in a directory with an open way: its entry, or nothing as long as the
directory is not there. -/
theorem locate_of_fits (hopen : t.OpenTo d.root) (hfits : d.Fits name) :
    (t.locate d.root = .ok (some .directory) ∧
        t.locate (d.root.child name) = .ok (t.get? (d.root.child name))) ∨
      t.locate (d.root.child name) = .error .noEntry := by
  have hshort := hfits.shortPath
  -- The directory is there, or it is missing, or something above it is missing.
  rcases FileTree.locate_of_openTo hopen with hdir | hmiss | hmiss
  · exact .inl ⟨hdir, FileTree.locate_child hdir hfits.shortName hshort⟩
  · right
    rw [FileTree.locate_child_eq, if_neg (by omega), hmiss]
  · right
    rw [FileTree.locate_child_eq, if_neg (by omega), hmiss]

theorem hasFile_of_open (hopen : t.OpenTo d.root) (hfits : d.Fits name) :
    ∃ b, d.hasFile t name = .ok b := by
  unfold hasFile
  rw [hfits.resolves]
  simp only [FileTree.look]
  rcases locate_of_fits hopen hfits with ⟨-, hl⟩ | hl
  · rw [hl]
    cases t.get? (d.root.child name) with
    | none => exact ⟨false, rfl⟩
    | some e =>
      cases e with
      | file text => exact ⟨true, rfl⟩
      | directory => exact ⟨false, rfl⟩
  · rw [hl]
    exact ⟨false, rfl⟩

/-- A file that is there is found. -/
theorem hasFile_of_file (hdir : t.locate d.root = .ok (some .directory)) (hfits : d.Fits name)
    {text : String} (hget : t.get? (d.root.child name) = some (.file text)) :
    d.hasFile t name = .ok true := by
  unfold hasFile
  rw [hfits.resolves]
  simp only [FileTree.look, FileTree.locate_child hdir hfits.shortName hfits.shortPath, hget]

theorem list_of_open (hopen : t.OpenTo d.root) : ∃ names, d.list t = .ok names := by
  unfold list
  simp only [FileTree.look]
  rcases FileTree.locate_of_openTo hopen with hdir | hmiss | hmiss
  · rw [hdir]
    exact ⟨_, rfl⟩
  · rw [hmiss]
    exact ⟨_, rfl⟩
  · rw [hmiss]
    exact ⟨_, rfl⟩

theorem delete_of_open (hopen : t.OpenTo d.root) (hfits : d.Fits name)
    (hfile : t.get? (d.root.child name) ≠ some .directory) :
    (d.delete t name).2 = .ok () ∧ (d.delete t name).1.OpenTo d.root := by
  unfold delete
  rw [hfits.resolves]
  simp only [FileTree.remove]
  rcases locate_of_fits hopen hfits with ⟨-, hl⟩ | hl
  · rw [hl]
    cases hget : t.get? (d.root.child name) with
    | none => exact ⟨rfl, hopen⟩
    | some e =>
      cases e with
      | file text => exact ⟨rfl, hopen.erase_child⟩
      | directory => exact absurd hget hfile
  · rw [hl]
    exact ⟨rfl, hopen⟩

/-- A file is put into the directory, which is made before if it is missing. -/
theorem place_of_open (hopen : t.OpenTo d.root) (hfits : d.Fits name)
    (hfile : (t.ensureDir d.root).1.get? (d.root.child name) ≠ some .directory) (text : String) :
    t.place (d.root.child name) text =
      ((t.ensureDir d.root).1.insert (d.root.child name) (.file text), .ok ()) := by
  obtain ⟨hmade, hdir⟩ := FileTree.ensureDir_of_openTo hopen
  simp only [FileTree.place, Path.parent_child]
  -- Once the directory is there, only a directory could stand in the way of the file.
  generalize t.ensureDir d.root = made at hmade hdir hfile ⊢
  obtain ⟨u, r⟩ := made
  cases hmade
  have hl := FileTree.locate_child hdir hfits.shortName hfits.shortPath
  simp only [FileTree.write_of_located hl hfile]

theorem write_eq_of_open (hopen : t.OpenTo d.root) (hfits : d.Fits name)
    (hfile : (t.ensureDir d.root).1.get? (d.root.child name) ≠ some .directory) (text : String) :
    d.write t name text =
      ((t.ensureDir d.root).1.insert (d.root.child name) (.file text), .ok ()) := by
  exact write_placed hfits.resolves (place_of_open hopen hfits hfile text)

theorem write_of_open (hopen : t.OpenTo d.root) (hfits : d.Fits name)
    (hfile : (t.ensureDir d.root).1.get? (d.root.child name) ≠ some .directory) (text : String) :
    (d.write t name text).2 = .ok () ∧ (d.write t name text).1.OpenTo d.root := by
  rw [write_eq_of_open hopen hfits hfile]
  exact ⟨rfl, (hopen.ensureDir d.root).insert_child _⟩

end GrammarDirectory

end QuasiGrammar
