import QuasiGrammar.Proofs.Files.Frame

/-
  QuasiGrammar.Proofs.Files.Way
  ─────────────────────────────
  Just when a directory can be made, and a file written.

      directories_of_locate   the way to a directory that is there is made of directories
      short_of_locate         what is located has no name on its way that is too long
      ensureDir_eq_ok_iff     a directory can be made with all above it just on an open way
      exhausts_congr          the calls that this takes depend on the way alone
      place_eq_ok_iff         a file can be written just in the place of no directory, on an
                              open way
-/

namespace QuasiGrammar.FileTree

open Text

variable {t u : FileTree} {p : Path} {text : String}

/-! ## §1. The way to what is located. -/

theorem directories_of_locate (h : t.locate p = .ok (some .directory)) :
    ∀ q : Path, q.names <+: p.names → t.get? q = some .directory := by
  obtain ⟨names⟩ := p
  induction names using List.reverseRecOn with
  | nil =>
    intro q hq
    have hroot : q = .root := Path.ext (List.prefix_nil.1 hq)
    rw [hroot]
    exact get?_root t
  | append_singleton names name ih =>
    intro q hq
    rcases List.prefix_concat_iff.1 hq with hself | habove
    · have hp : q = ⟨names ++ [name]⟩ := Path.ext hself
      rw [hp]
      exact (locate_eq_ok h).symm
    · exact ih (locate_child_eq_ok (p := ⟨names⟩) h).1 q habove

theorem short_of_locate {e : Option Entry} (h : t.locate p = .ok e) :
    (∀ name ∈ p.names, utf8Length name ≤ maxNameLength) ∧ utf8Length p.text ≤ maxPathLength := by
  have hpath : utf8Length p.text ≤ maxPathLength := by
    unfold locate at h
    split at h
    · cases h
    · omega
  refine ⟨?_, hpath⟩
  clear hpath
  obtain ⟨names⟩ := p
  induction names using List.reverseRecOn generalizing e with
  | nil => simp
  | append_singleton names name ih =>
    have hc : (⟨names ++ [name]⟩ : Path) = (⟨names⟩ : Path).child name := rfl
    rw [hc] at h
    have hdir := (locate_child_eq_ok h).1
    -- The last name is looked for in a directory, and there its length counts.
    have hname : utf8Length name ≤ maxNameLength := by
      rw [locate_child_eq, hdir] at h
      split at h
      · cases h
      · simp only at h
        split at h
        · cases h
        · omega
    intro n hn
    rcases List.mem_append.1 hn with habove | hlast
    · exact ih hdir n habove
    · rw [List.mem_singleton.1 hlast]
      exact hname

/-! ## §2. Making directories. -/

/-- Looking for something is never refused because something is there. -/
theorem locate_ne_exists (t : FileTree) (p : Path) : t.locate p ≠ .error .exists := by
  obtain ⟨names⟩ := p
  induction names using List.reverseRecOn with
  | nil =>
    rw [show t.locate ⟨[]⟩ = .ok (some .directory) from rfl]
    exact fun h => nomatch h
  | append_singleton names name ih =>
    have hc : (⟨names ++ [name]⟩ : Path) = (⟨names⟩ : Path).child name := rfl
    rw [hc, locate_child_eq]
    intro h
    split at h
    · cases h
    · split at h
      · next hl =>
        cases h
        exact ih hl
      · cases h
      · cases h
      · split at h <;> cases h

theorem locate_of_makeDir (h : t.makeDir p = .ok u) : u.locate p = .ok (some .directory) := by
  obtain ⟨hl, hu⟩ := makeDir_eq_ok h
  rw [hu]
  exact locate_insert_self _ hl

/-- The refusal to make a directory is accepted only where a directory is found. -/
theorem locate_of_acceptDir {r : Refusal} (hm : t.makeDir p = .error r)
    (h : (t.acceptDir p r).2 = .ok ()) : t.locate p = .ok (some .directory) := by
  unfold acceptDir at h
  split at h
  · next hboth =>
    obtain ⟨hr, hget⟩ := hboth
    subst hr
    unfold makeDir at hm
    split at hm
    · next hl =>
      cases hm
      exact absurd hl (locate_ne_exists t p)
    · next e hl =>
      rw [hl, locate_eq_ok hl, hget]
    · cases hm
  · cases h

/-- A directory that has been made is found. -/
theorem locate_of_ensureDir (h : (t.ensureDir p).2 = .ok ()) :
    (t.ensureDir p).1.locate p = .ok (some .directory) := by
  unfold ensureDir at h ⊢
  cases hn : p.names.reverse with
  | nil =>
    have hroot : p = .root := Path.ext (List.reverse_eq_nil_iff.1 hn)
    rw [hroot]
    rfl
  | cons name above =>
    have hp : (⟨(name :: above).reverse⟩ : Path) = p := by
      rw [← hn, List.reverse_reverse]
    rw [hn] at h
    simp only [ensureUpwards, hp] at h ⊢
    -- It has been made at once, or after those above it, or was there.
    cases hm : t.makeDir p with
    | ok t' => exact locate_of_makeDir hm
    | error r =>
      rw [hm] at h
      by_cases hr : r = .noEntry
      · subst hr
        simp only at h ⊢
        generalize t.ensureUpwards above = made at h ⊢
        obtain ⟨t', result⟩ := made
        cases result with
        | error f => cases h
        | ok =>
          simp only at h ⊢
          cases hm' : t'.makeDir p with
          | ok t'' => exact locate_of_makeDir hm'
          | error r' =>
            rw [hm'] at h
            exact locate_of_acceptDir hm' h
      · cases r with
        | noEntry => exact absurd rfl hr
        | _ => exact locate_of_acceptDir hm h

/-- **A directory can be made, with all above it, just on an open way.** -/
theorem ensureDir_eq_ok_iff : (t.ensureDir p).2 = .ok () ↔ t.OpenTo p := by
  constructor
  · intro h
    have hl := locate_of_ensureDir h
    obtain ⟨hnames, hpath⟩ := short_of_locate hl
    refine ⟨?_, hnames, hpath⟩
    intro q hq text hfile
    -- A file would still be there, and directories are all along the way.
    have hdir := directories_of_locate hl q hq
    rcases makesWay_ensureDir t p q with hsame | ⟨-, hnone, -⟩
    · rw [hsame, hfile] at hdir
      cases hdir
    · rw [hnone] at hfile
      cases hfile
  · intro h
    exact (ensureDir_of_openTo h).1

/-! ## §3. Room for calls. -/

theorem missingUpwards_cons (t : FileTree) (name : String) (above : List String) :
    t.missingUpwards (name :: above) =
      if t.locate ⟨(name :: above).reverse⟩ = .error .noEntry then t.missingUpwards above + 1
      else 0 := by
  simp only [missingUpwards, makeDir]
  cases t.locate ⟨(name :: above).reverse⟩ with
  | error r => cases r <;> simp
  | ok e => cases e <;> simp

/-- How many calls there are depends on the way alone. -/
theorem missingUpwards_congr (names : List String)
    (h : ∀ q : Path, q.names <+: names.reverse → u.get? q = t.get? q) :
    u.missingUpwards names = t.missingUpwards names := by
  induction names with
  | nil => rfl
  | cons name above ih =>
    rw [List.reverse_cons] at h
    rw [missingUpwards_cons, missingUpwards_cons, List.reverse_cons, locate_congr h,
      ih fun q hq => h q (hq.trans (List.prefix_append _ _))]

theorem exhausts_congr (room : Option Nat)
    (h : ∀ q : Path, q.names <+: p.names → u.get? q = t.get? q) :
    u.exhausts room p = t.exhausts room p := by
  unfold exhausts nesting
  rw [missingUpwards_congr]
  rwa [List.reverse_reverse]

/-- What is in a directory does not count for the calls that make it. -/
theorem exhausts_of_child_change {name : String} (room : Option Nat)
    (hsame : ∀ q, q ≠ p.child name → u.get? q = t.get? q) :
    u.exhausts room p = t.exhausts room p := by
  refine exhausts_congr room fun q hq => hsame q ?_
  rintro rfl
  exact child_not_above p name hq

/-- A directory that is there takes no call more. -/
theorem exhausts_of_there (room : Option Nat) (h : t.locate p = .ok (some .directory)) :
    t.exhausts room p = false := by
  have hnone : t.nesting p = 0 := by
    unfold nesting
    cases hn : p.names.reverse with
    | nil => rfl
    | cons name above =>
      have hp : (⟨(name :: above).reverse⟩ : Path) = p := by
        rw [← hn, List.reverse_reverse]
      rw [missingUpwards_cons, hp, h, if_neg (by simp)]
  unfold exhausts
  rw [hnone]
  cases room <;> simp

/-! ## §4. Writing files. -/

/-- A file can be written at a path. -/
structure Admits (t : FileTree) (p : Path) : Prop where
  way : t.OpenTo p.parent
  shortNames : ∀ name ∈ p.names, utf8Length name ≤ maxNameLength
  shortPath : utf8Length p.text ≤ maxPathLength
  noDirectory : t.get? p ≠ some .directory

theorem Admits.exists_child (h : t.Admits p) : ∃ name, p = p.parent.child name := by
  have hroot : p ≠ .root := by
    intro hroot
    refine h.noDirectory ?_
    rw [hroot]
    exact get?_root t
  obtain ⟨name, hname⟩ := Option.ne_none_iff_exists'.1 fun hn => hroot (Path.name?_eq_none hn)
  exact ⟨name, Path.eq_child_of_name? hname⟩

/-- A path is looked at before anything is written there. -/
theorem exists_locate_of_write (h : t.write p text = .ok u) : ∃ e, t.locate p = .ok e := by
  unfold FileTree.write at h
  cases hl : t.locate p with
  | error r =>
    rw [hl] at h
    cases h
  | ok e => exact ⟨e, rfl⟩

theorem admits_of_place (h : (t.place p text).2 = .ok ()) : t.Admits p := by
  have hway := makesWay_ensureDir t p.parent
  unfold place at h
  generalize hmade : t.ensureDir p.parent = made at h hway
  obtain ⟨u, result⟩ := made
  cases result with
  | error f => cases h
  | ok =>
    simp only at h
    cases hw : u.write p text with
    | error r =>
      rw [hw] at h
      cases h
    | ok v =>
      obtain ⟨hno, -⟩ := write_eq_ok hw
      have hroot : p ≠ .root := by
        intro hroot
        rw [hroot] at hno
        exact hno (get?_root u)
      obtain ⟨e, hl⟩ := exists_locate_of_write hw
      obtain ⟨hnames, hpath⟩ := short_of_locate hl
      refine ⟨ensureDir_eq_ok_iff.1 (by rw [hmade]), hnames, hpath, ?_⟩
      -- The file itself has not been made on the way to it.
      rw [← hway.get?_eq hroot]
      exact hno

theorem Admits.place (h : t.Admits p) (text : String) : (t.place p text).2 = .ok () := by
  have hway := makesWay_ensureDir t p.parent
  obtain ⟨name, hp⟩ := h.exists_child
  obtain ⟨hok, hdir⟩ := ensureDir_of_openTo h.way
  have hname : utf8Length name ≤ maxNameLength := by
    refine h.shortNames name ?_
    rw [hp]
    exact List.mem_append_right _ (List.mem_singleton_self name)
  have hpath := h.shortPath
  have hno := h.noDirectory
  rw [← hway.get?_eq (by rw [hp]; exact Path.child_ne_root _ _)] at hno
  unfold FileTree.place
  generalize t.ensureDir p.parent = made at hok hdir hno ⊢
  obtain ⟨u, result⟩ := made
  cases hok
  -- In the directory that is there now the name leads to a file or to nothing.
  rw [hp] at hpath
  have hl := locate_child hdir hname hpath
  rw [← hp] at hl
  simp only [write_of_located hl hno]

/-- **A file can be written where no directory is, on an open way; nowhere else.** -/
theorem place_eq_ok_iff : (t.place p text).2 = .ok () ↔ t.Admits p :=
  ⟨admits_of_place, fun h => h.place text⟩

/-- Where a file has been written all directories above it are there. -/
theorem directories_of_place (h : t.place p text = (u, .ok ())) :
    ∀ q : Path, q.names <+: p.parent.names → u.get? q = some .directory := by
  have hadmits : t.Admits p := place_eq_ok_iff.1 (by rw [h])
  obtain ⟨name, hp⟩ := hadmits.exists_child
  obtain ⟨hok, hdir⟩ := ensureDir_of_openTo hadmits.way
  intro q hq
  have hne : q ≠ p := by
    intro hsame
    rw [hsame, hp, Path.parent_child] at hq
    exact child_not_above _ _ hq
  unfold place at h
  generalize t.ensureDir p.parent = made at h hok hdir
  obtain ⟨v, result⟩ := made
  cases hok
  simp only at h
  split at h
  · next hw =>
    cases h
    obtain ⟨-, hu⟩ := write_eq_ok hw
    rw [hu, get?_insert_of_ne v hne]
    exact directories_of_locate hdir q hq
  · cases h

end QuasiGrammar.FileTree
