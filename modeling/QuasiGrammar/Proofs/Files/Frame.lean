import QuasiGrammar.Proofs.Files.Grounded

/-
  QuasiGrammar.Proofs.Files.Frame
  ───────────────────────────────
  **An operation of the directory changes one file, or none.**

      write_cases    a file is written, or a part of the way to it is made
      delete_cases   a file is deleted, or nothing changes
      fewerFiles_…   no file appears but one that is written

  What else can appear are directories, on the way to the file that was to be
  written (`MakesWay`).
-/

namespace QuasiGrammar

namespace FileTree

variable {t u v : FileTree} {p : Path} {text : String}

/-! ## §1. Changes of a tree. -/

/-- Directories have been made on the way to a path, where nothing was. -/
def MakesWay (p : Path) (t u : FileTree) : Prop :=
  ∀ q, u.get? q = t.get? q ∨
    q.names <+: p.names ∧ t.get? q = none ∧ u.get? q = some .directory

/-- A file has been written, and nothing else has changed but that the way to it is there. -/
structure Writes (p : Path) (text : String) (t u : FileTree) : Prop where
  written : u.get? p = some (.file text)
  /-- A directory does not give way to a file. -/
  noDirectory : t.get? p ≠ some .directory
  others : ∀ q, q ≠ p → u.get? q = t.get? q ∨
    q.names <+: p.parent.names ∧ t.get? q = none ∧ u.get? q = some .directory

/-- All files have been there before, with the same texts. -/
def FewerFiles (t u : FileTree) : Prop :=
  ∀ q text, u.get? q = some (.file text) → t.get? q = some (.file text)

theorem MakesWay.refl (p : Path) (t : FileTree) : MakesWay p t t := fun _ => .inl rfl

theorem FewerFiles.refl (t : FileTree) : FewerFiles t t := fun _ _ hfile => hfile

theorem FewerFiles.trans (h : FewerFiles t u) (h' : FewerFiles u v) : FewerFiles t v :=
  fun q text hfile => h q text (h' q text hfile)

theorem MakesWay.fewerFiles (h : MakesWay p t u) : FewerFiles t u := by
  intro q text hfile
  rcases h q with hsame | ⟨-, -, hdir⟩
  · rw [← hsame]
    exact hfile
  · rw [hdir] at hfile
    cases hfile

theorem fewerFiles_erase (t : FileTree) (p : Path) : FewerFiles t (t.erase p) := by
  intro q text hfile
  by_cases hq : q = p
  · subst hq
    by_cases hroot : q = .root
    · rw [hroot, get?_root] at hfile
      cases hfile
    · rw [get?_erase_self t hroot] at hfile
      cases hfile
  · rwa [get?_erase_of_ne t hq] at hfile

/-- In a grounded tree nothing is where the way is missing. -/
theorem IsGrounded.get?_of_noEntry (h : t.IsGrounded) (hl : t.locate p = .error .noEntry) :
    t.get? p = none := by
  cases hget : t.get? p with
  | none => rfl
  | some e =>
    rcases h.locate_of_get? hget with hl' | hl'
    · cases hl.symm.trans hl'
    · cases hl.symm.trans hl'

/-! ## §2. Directories on the way. -/

/-- One more directory on the way. -/
theorem MakesWay.insert (h : MakesWay p t u) {q : Path} (hq : q.names <+: p.names)
    (hnone : u.get? q = none) : MakesWay p t (u.insert q .directory) := by
  have hroot : q ≠ .root := by
    rintro rfl
    rw [get?_root] at hnone
    cases hnone
  intro r
  by_cases hr : r = q
  · subst hr
    rcases h r with hsame | ⟨-, -, hdir⟩
    · exact .inr ⟨hq, hsame.symm.trans hnone, get?_insert_self u hroot _⟩
    · rw [hdir] at hnone
      cases hnone
  · rw [get?_insert_of_ne u hr]
    exact h r

theorem makesWay_ensureDir (t : FileTree) (p : Path) : MakesWay p t (t.ensureDir p).1 :=
  ensureDir_induction (.refl p t) fun _ _ hq hl hu => hu.insert hq (locate_eq_ok hl).symm

/-- The way to a path does not reach the path, unless it is the root. -/
theorem MakesWay.get?_eq (h : MakesWay p.parent t u) (hroot : p ≠ .root) :
    u.get? p = t.get? p := by
  rcases h p with hsame | ⟨habove, -, -⟩
  · exact hsame
  · cases hn : p.name? with
    | none => exact absurd (Path.name?_eq_none hn) hroot
    | some name =>
      have hp := Path.eq_child_of_name? hn
      rw [hp, Path.parent_child] at habove
      exact absurd habove (child_not_above _ _)

/-- Where a file can be written no directory is. -/
theorem write_eq_ok (h : t.write p text = .ok u) :
    t.get? p ≠ some .directory ∧ u = t.insert p (.file text) := by
  unfold FileTree.write at h
  split at h
  · cases h
  · cases h
  · next e hno hl =>
    cases h
    rw [← locate_eq_ok hl]
    exact ⟨hno, rfl⟩

/-- A file is written, or a part of the way to it is made. -/
theorem place_cases {r : Except SystemFault Unit} (h : t.place p text = (u, r)) :
    (r = .ok () ∧ Writes p text t u) ∨ (∃ f, r = .error f) ∧ MakesWay p.parent t u := by
  have hway := makesWay_ensureDir t p.parent
  unfold place at h
  split at h
  · next hens =>
    cases h
    rw [hens] at hway
    exact .inr ⟨⟨_, rfl⟩, hway⟩
  · next made hens =>
    rw [hens] at hway
    split at h
    · next hw =>
      cases h
      obtain ⟨hno, rfl⟩ := write_eq_ok hw
      have hroot : p ≠ .root := by
        rintro rfl
        exact hno (get?_root made)
      refine .inl ⟨rfl, get?_insert_self made hroot _, ?_, ?_⟩
      · rw [← hway.get?_eq hroot]
        exact hno
      · intro q hq
        rw [get?_insert_of_ne made hq]
        exact hway q
    · cases h
      exact .inr ⟨⟨_, rfl⟩, hway⟩

theorem writes_of_place (h : t.place p text = (u, .ok ())) : Writes p text t u := by
  rcases place_cases h with ⟨-, hwrites⟩ | ⟨⟨_, hbad⟩, -⟩
  · exact hwrites
  · cases hbad

theorem makesWay_of_place {f : SystemFault} (h : t.place p text = (u, .error f)) :
    MakesWay p.parent t u := by
  rcases place_cases h with ⟨hbad, -⟩ | ⟨-, hway⟩
  · cases hbad
  · exact hway

/-- What is removed is a file. -/
theorem remove_eq_ok (h : t.remove p = .ok u) :
    (∃ text, t.get? p = some (.file text)) ∧ u = t.erase p := by
  unfold FileTree.remove at h
  split at h
  · cases h
  · cases h
  · cases h
  · next text hl =>
    cases h
    exact ⟨⟨text, (locate_eq_ok hl).symm⟩, rfl⟩

end FileTree

/-! ## §3. Operations of a directory. -/

namespace GrammarDirectory

open FileTree Text

variable {d : GrammarDirectory} {t u : FileTree} {name text : String} {p : Path}
  {r : Except Failure Unit}

/-- With room for all calls a text of characters ends up as its path admits. -/
theorem place_of_write (hp : d.resolve name = .ok p) (h : d.write t name text = (u, r)) :
    (t.place p text = (u, .ok ()) ∧ r = .ok ()) ∨
      ∃ f, t.place p text = (u, .error f) ∧ r = .error (problem p "Unable to write grammar" f) := by
  cases hplace : t.place p text with
  | mk v result =>
    cases result with
    | ok =>
      rw [write_placed hp hplace] at h
      cases h
      exact .inl ⟨rfl, rfl⟩
    | error f =>
      rw [write_refused hp hplace] at h
      cases h
      exact .inr ⟨f, rfl, rfl⟩

/-- A file is written, or a part of the way to it is made. -/
theorem write_cases (hp : d.resolve name = .ok p) (h : d.write t name text = (u, r)) :
    (r = .ok () ∧ Writes p text t u) ∨ (∃ f, r = .error f) ∧ MakesWay p.parent t u := by
  rcases place_of_write hp h with ⟨hplace, hr⟩ | ⟨f, hplace, hr⟩
  · exact .inl ⟨hr, writes_of_place hplace⟩
  · exact .inr ⟨⟨_, hr⟩, makesWay_of_place hplace⟩

theorem delete_cases (hp : d.resolve name = .ok p) (h : d.delete t name = (u, r)) :
    u = t ∨ r = .ok () ∧ (∃ text, t.get? p = some (.file text)) ∧ u = t.erase p := by
  unfold GrammarDirectory.delete at h
  rw [hp] at h
  simp only at h
  split at h
  · next hrem =>
    cases h
    exact .inr ⟨rfl, remove_eq_ok hrem⟩
  · cases h
    exact .inl rfl
  · cases h
    exact .inl rfl

/-- A name that has been deleted leads to nothing, if the way to it counts as missing only where
nothing is. -/
theorem get?_of_delete (hmiss : t.locate p = .error .noEntry → t.get? p = none)
    (hp : d.resolve name = .ok p) (h : d.delete t name = (u, .ok ())) : u.get? p = none := by
  unfold GrammarDirectory.delete at h
  rw [hp] at h
  simp only at h
  split at h
  · next hrem =>
    cases h
    obtain ⟨⟨text, hfile⟩, rfl⟩ := remove_eq_ok hrem
    refine get?_erase_self t ?_
    rintro rfl
    rw [get?_root] at hfile
    cases hfile
  · next hrem =>
    cases h
    unfold FileTree.remove at hrem
    split at hrem
    · next hl =>
      cases hrem
      exact hmiss hl
    · next hl => exact (locate_eq_ok hl).symm
    · cases hrem
    · cases hrem
  · cases h

theorem delete_unresolved {f : Failure} (hp : d.resolve name = .error f) :
    d.delete t name = (t, .error f) := by
  unfold GrammarDirectory.delete
  rw [hp]

/-- A deletion makes no file. -/
theorem fewerFiles_of_delete (h : d.delete t name = (u, r)) : FewerFiles t u := by
  cases hp : d.resolve name with
  | error f =>
    rw [delete_unresolved hp] at h
    cases h
    exact .refl t
  | ok p =>
    rcases delete_cases hp h with rfl | ⟨-, -, rfl⟩
    · exact .refl u
    · exact fewerFiles_erase t p

/-- A deletion that fails changes nothing. -/
theorem eq_of_failed_delete {f : Failure} (h : d.delete t name = (u, .error f)) : u = t := by
  cases hp : d.resolve name with
  | error f' =>
    rw [delete_unresolved hp] at h
    cases h
    rfl
  | ok p =>
    rcases delete_cases hp h with hsame | ⟨hbad, -⟩
    · exact hsame
    · cases hbad

/-- A write that fails makes no file either. -/
theorem fewerFiles_of_write {f : Failure} (h : d.write t name text = (u, .error f)) :
    FewerFiles t u := by
  cases hp : d.resolve name with
  | error f' =>
    rw [write_unresolved hp] at h
    cases h
    exact .refl t
  | ok p =>
    rcases write_cases hp h with ⟨hbad, -⟩ | ⟨-, hway⟩
    · cases hbad
    · exact hway.fewerFiles

/-- Where a question is answered no, there is no file. -/
theorem no_file_of_hasFile (hg : t.IsGrounded) (hp : d.resolve name = .ok p)
    (h : d.hasFile t name = .ok false) (text : String) : t.get? p ≠ some (.file text) := by
  intro hfile
  unfold GrammarDirectory.hasFile at h
  rw [hp] at h
  simp only [FileTree.look] at h
  rcases hg.locate_of_get? hfile with hl | hl
  · rw [hl] at h
    cases h
  · rw [hl] at h
    cases h

/-- Where it is answered yes, there is one. -/
theorem file_of_hasFile (hp : d.resolve name = .ok p) (h : d.hasFile t name = .ok true) :
    ∃ text, t.get? p = some (.file text) := by
  unfold GrammarDirectory.hasFile at h
  rw [hp] at h
  simp only [FileTree.look] at h
  split at h
  · next text hlook =>
    split at hlook
    · cases hlook
    · cases hlook
    · next e hl =>
      cases hlook
      exact ⟨text, (locate_eq_ok hl).symm⟩
  · cases h
  · split at h <;> cases h

end GrammarDirectory

end QuasiGrammar
