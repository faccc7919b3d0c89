import QuasiGrammar.Files.Directory
import QuasiGrammar.Proofs.Files.Place

/-
  QuasiGrammar.Proofs.Files.Grounded
  ──────────────────────────────────
  Trees in which nothing hangs in the air: every entry lies in a directory of
  the tree.

      locate_of_get?               there, an entry is located unless a name or its
                                   path is too long
      IsGrounded.write, .delete    the operations of a directory keep trees so

  A map from paths to entries need not be such a tree; a file system is always.
-/

namespace QuasiGrammar

open Text

namespace FileTree

/-! ## §1. Grounded trees. -/

/-- Every entry lies in a directory. -/
def IsGrounded (t : FileTree) : Prop := ∀ e ∈ t.entries, t.get? e.1.parent = some .directory

variable {t u : FileTree} {p : Path}

theorem locate_root (t : FileTree) : t.locate .root = .ok (some .directory) := rfl

theorem get?_root (t : FileTree) : t.get? .root = some .directory := rfl

/-- What is there lies in a directory. -/
theorem IsGrounded.parent (h : t.IsGrounded) {e : Entry} (hget : t.get? p = some e) :
    t.get? p.parent = some .directory := by
  by_cases hroot : p = .root
  · rw [hroot]
    exact get?_root t
  · exact h (p, e) (mem_entries_of_get? hroot hget)

/-- What is there is located, unless a name on the way or the path is too long. -/
theorem IsGrounded.locate_of_get? (h : t.IsGrounded) {e : Entry} (hget : t.get? p = some e) :
    t.locate p = .ok (some e) ∨ t.locate p = .error .nameTooLong := by
  obtain ⟨names⟩ := p
  -- An entry lies in a directory, which is located, or is not because of a length.
  induction names using List.reverseRecOn generalizing e with
  | nil =>
    cases hget
    exact .inl rfl
  | append_singleton names name ih =>
    have hc : (⟨names ++ [name]⟩ : Path) = (⟨names⟩ : Path).child name := rfl
    rw [hc] at hget ⊢
    have hparent := h.parent hget
    rw [Path.parent_child] at hparent
    rcases ih hparent with hdir | hlong
    · rcases locate_child_cases name hdir with hl | hl
      · exact .inl (hl.trans (congrArg _ hget))
      · exact .inr hl
    · -- The path of its directory is too long already, or a name on the way there.
      rw [locate_child_eq, hlong]
      exact .inr (ite_self _)

/-- What a path leads to, or nothing at all, lies in a directory. -/
theorem parent_of_locate {e : Option Entry} (h : t.locate p = .ok e) :
    t.get? p.parent = some .directory := by
  cases hn : p.name? with
  | none =>
    rw [Path.name?_eq_none hn]
    exact get?_root t
  | some name =>
    rw [Path.eq_child_of_name? hn] at h
    exact (locate_eq_ok (locate_child_eq_ok h).1).symm

/-! ## §2. Changes. -/

/-- A tree stays grounded if what is put into it lies in a directory and takes the place of none. -/
theorem IsGrounded.insert (h : t.IsGrounded) {e : Entry} (hne : p ≠ .root)
    (hparent : t.get? p.parent = some .directory)
    (hkeep : e = .directory ∨ t.get? p ≠ some .directory) : (t.insert p e).IsGrounded := by
  have hdir : ∀ q, t.get? q = some .directory → (t.insert p e).get? q = some .directory := by
    intro q hq
    by_cases hqp : q = p
    · rw [hqp] at hq ⊢
      rw [get?_insert_self t hne]
      rcases hkeep with rfl | hno
      · rfl
      · exact absurd hq hno
    · rw [get?_insert_of_ne t hqp]
      exact hq
  intro entry hentry
  rcases List.mem_cons.1 hentry with rfl | hold
  · exact hdir _ hparent
  · exact hdir _ (h entry (List.mem_filter.1 hold).1)

/-- It stays grounded if something is taken away that is no directory. -/
theorem IsGrounded.erase (h : t.IsGrounded) (hfile : t.get? p ≠ some .directory) :
    (t.erase p).IsGrounded := by
  intro entry hentry
  have hparent := h entry (List.mem_filter.1 hentry).1
  rw [get?_erase_of_ne t]
  · exact hparent
  · intro hp
    rw [hp] at hparent
    exact hfile hparent

theorem IsGrounded.ensureDir (h : t.IsGrounded) (p : Path) : (t.ensureDir p).1.IsGrounded := by
  refine ensureDir_induction (P := IsGrounded) h fun u q _ hl hu => ?_
  refine hu.insert ?_ (parent_of_locate hl) (.inl rfl)
  rintro rfl
  cases (locate_root u).symm.trans hl

theorem IsGrounded.write (h : t.IsGrounded) {text : String} (hw : t.write p text = .ok u) :
    u.IsGrounded := by
  unfold FileTree.write at hw
  split at hw
  · cases hw
  · cases hw
  · next e hno hl =>
    cases hw
    have hne : p ≠ .root := by
      rintro rfl
      exact hno (Except.ok.inj ((locate_root t).symm.trans hl)).symm
    refine h.insert hne (parent_of_locate hl) (.inr ?_)
    rw [← locate_eq_ok hl]
    exact hno

theorem IsGrounded.place (h : t.IsGrounded) (p : Path) (text : String) :
    (t.place p text).1.IsGrounded := by
  have hmade := h.ensureDir p.parent
  unfold FileTree.place
  split
  · next hens => rwa [hens] at hmade
  · next hens =>
    rw [hens] at hmade
    split
    · next hw => exact IsGrounded.write hmade hw
    · exact hmade

theorem IsGrounded.remove (h : t.IsGrounded) (hr : t.remove p = .ok u) : u.IsGrounded := by
  unfold FileTree.remove at hr
  split at hr
  · cases hr
  · cases hr
  · cases hr
  · next text hl =>
    cases hr
    refine h.erase ?_
    rw [← locate_eq_ok hl]
    exact fun hdir => nomatch hdir

end FileTree

/-! ## §3. Operations of a directory. -/

namespace GrammarDirectory

variable {t : FileTree}

theorem isGrounded_writeWithin (d : GrammarDirectory) (room : Option Nat) (h : t.IsGrounded)
    (name : String) (text : LooseText) : (d.writeWithin room t name text).1.IsGrounded := by
  have houtcome := d.writeWithin_outcome room t name text
  generalize d.writeWithin room t name text = result at houtcome ⊢
  cases houtcome with
  | unresolved => exact h
  | exhausted => exact h
  | @placed p u _ _ hplaced =>
    have hplace := h.place p text.written
    rwa [hplaced] at hplace
  | @refused p u _ _ _ hplaced =>
    have hplace := h.place p text.written
    rwa [hplaced] at hplace

theorem isGrounded_write (d : GrammarDirectory) (h : t.IsGrounded) (name text : String) :
    (d.write t name text).1.IsGrounded :=
  d.isGrounded_writeWithin none h name (.of text)

theorem isGrounded_delete (d : GrammarDirectory) (h : t.IsGrounded) (name : String) :
    (d.delete t name).1.IsGrounded := by
  unfold delete
  split
  · exact h
  · split
    · next hr => exact h.remove hr
    · exact h
    · exact h

/-- A directory that has been listed is there, or nothing lies in it. -/
theorem list_eq_ok_cases {d : GrammarDirectory} (h : t.IsGrounded) {names : List String}
    (hlist : d.list t = .ok names) :
    t.locate d.root = .ok (some .directory) ∨ ∀ name, t.get? (d.root.child name) = none := by
  by_cases hempty : ∀ name, t.get? (d.root.child name) = none
  · exact .inr hempty
  · obtain ⟨name, hname⟩ := not_forall.1 hempty
    obtain ⟨e, he⟩ := Option.ne_none_iff_exists'.1 hname
    have hdir := h.parent he
    rw [Path.parent_child] at hdir
    rcases h.locate_of_get? hdir with hl | hl
    · exact .inl hl
    · -- Only an absent directory is listed without being there.
      simp [list, FileTree.look, hl, meansAbsent] at hlist

end GrammarDirectory

end QuasiGrammar
