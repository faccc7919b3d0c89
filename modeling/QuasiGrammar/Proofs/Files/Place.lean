import Mathlib.Data.List.Induction
import QuasiGrammar.Proofs.Files.Locate

/-
  QuasiGrammar.Proofs.Files.Place
  ───────────────────────────────
  What the operations on a tree change, and when they cannot be refused.

      ensureUpwards_induction   directories are made one at a time, on the way
      filter_ensureDir          entries off the way stay as they are
      ensureDir_of_there        a directory that is there is not made again
      ensureDir_of_openTo       on an open way the directory is there afterwards

  A way is open if no file stands on it and it is not too long.
-/

namespace QuasiGrammar

namespace FileTree

/-! ## §1. Single changes. -/

/-- What is there, but for the root, is an entry. -/
theorem mem_entries_of_get? {t : FileTree} {p : Path} {e : Entry} (hne : p ≠ .root)
    (hget : t.get? p = some e) : (p, e) ∈ t.entries := by
  rw [get?, if_neg hne] at hget
  obtain ⟨before, after, hentries, -⟩ := List.lookup_eq_some_iff.1 hget
  rw [hentries]
  exact List.mem_append_right _ List.mem_cons_self

theorem filter_erase_of_not {f : Path × Entry → Bool} {p : Path} (t : FileTree)
    (h : ∀ e, f (p, e) = false) : (t.erase p).entries.filter f = t.entries.filter f := by
  unfold erase
  rw [List.filter_filter]
  refine List.filter_congr fun e _ => ?_
  by_cases hp : e.1 = p
  · have hf : f e = false := by rw [← h e.2, ← hp]
    simp [hf]
  · simp [hp]

theorem filter_insert_of_not {f : Path × Entry → Bool} {p : Path} (t : FileTree) (e : Entry)
    (h : ∀ e, f (p, e) = false) : (t.insert p e).entries.filter f = t.entries.filter f := by
  unfold insert
  rw [List.filter_cons_of_neg (by simp [h e]), filter_erase_of_not t h]

/-- Removing an entry commutes with selecting entries. -/
theorem filter_erase (f : Path × Entry → Bool) (p : Path) (t : FileTree) :
    (t.erase p).entries.filter f = (t.entries.filter f).filter fun e => e.1 ≠ p := by
  unfold erase
  rw [List.filter_filter, List.filter_filter]
  exact List.filter_congr fun e _ => Bool.and_comm _ _

theorem filter_insert {f : Path × Entry → Bool} {p : Path} {e : Entry} (t : FileTree)
    (h : f (p, e) = true) :
    (t.insert p e).entries.filter f = (p, e) :: (t.entries.filter f).filter fun e => e.1 ≠ p := by
  unfold insert
  rw [List.filter_cons_of_pos h, filter_erase]

/-- A change at a path shows at that path alone. -/
theorem locate_insert_of_not {t : FileTree} {p q : Path} (e : Entry) (h : ¬ p.names <+: q.names) :
    (t.insert p e).locate q = t.locate q := by
  refine locate_congr fun r hr => get?_insert_of_ne t ?_ e
  rintro rfl
  exact h hr

theorem locate_erase_of_not {t : FileTree} {p q : Path} (h : ¬ p.names <+: q.names) :
    (t.erase p).locate q = t.locate q := by
  refine locate_congr fun r hr => get?_erase_of_ne t ?_
  rintro rfl
  exact h hr

theorem child_not_above (p : Path) (name : String) : ¬ (p.child name).names <+: p.names := by
  intro h
  have hlen : (p.names ++ [name]).length ≤ p.names.length := h.length_le
  rw [List.length_append, List.length_singleton] at hlen
  omega

/-- What is made where nothing was is located there. -/
theorem locate_insert_self {t : FileTree} {p : Path} (e : Entry) (h : t.locate p = .ok none) :
    (t.insert p e).locate p = .ok (some e) := by
  -- The root is always there, so the path ends with a name.
  cases hn : p.name? with
  | none =>
    rw [Path.name?_eq_none hn] at h
    cases (show t.locate .root = .ok (some .directory) from rfl).symm.trans h
  | some name =>
    have hp := Path.eq_child_of_name? hn
    generalize p.parent = dir at hp
    subst hp
    rw [locate_child_eq] at h ⊢
    rw [locate_insert_of_not e (child_not_above dir name), get?_insert_self t (by simp)]
    split at h
    · cases h
    · next hshort =>
      rw [if_neg hshort]
      split at h
      · cases h
      · cases h
      · cases h
      · split at h
        · cases h
        · next hname => exact if_neg hname

theorem write_of_located {t : FileTree} {p : Path} {e : Option Entry} {text : String}
    (hl : t.locate p = .ok e) (hno : e ≠ some .directory) :
    t.write p text = .ok (t.insert p (.file text)) := by
  unfold FileTree.write
  rw [hl]
  cases e with
  | none => rfl
  | some e =>
    cases e with
    | file old => rfl
    | directory => exact absurd rfl hno

/-! ## §2. Directories. -/

theorem makeDir_eq_ok {t u : FileTree} {p : Path} (h : t.makeDir p = .ok u) :
    t.locate p = .ok none ∧ u = t.insert p .directory := by
  unfold makeDir at h
  split at h
  · cases h
  · cases h
  · next hl => exact ⟨hl, by cases h; rfl⟩

/-- Whatever a tree keeps while a directory is made where nothing was, it keeps while directories
are made all along a way. -/
theorem ensureUpwards_induction {P : FileTree → Prop} {t : FileTree} (names : List String) (h : P t)
    (step : ∀ (u : FileTree) (q : Path), q.names <+: names.reverse → u.locate q = .ok none →
      P u → P (u.insert q .directory)) :
    P (t.ensureUpwards names).1 := by
  have made : ∀ {u v : FileTree} {q : Path}, q.names <+: names.reverse → P u →
      u.makeDir q = .ok v → P v := by
    intro u v q hq hu hm
    obtain ⟨hl, rfl⟩ := makeDir_eq_ok hm
    exact step u q hq hl hu
  -- Over the names from the last one upwards, as the directories are tried.
  induction names with
  | nil => exact h
  | cons name above ih =>
    have hself : (⟨(name :: above).reverse⟩ : Path).names <+: (name :: above).reverse :=
      List.prefix_refl _
    have habove : ∀ {q : Path}, q.names <+: above.reverse → q.names <+: (name :: above).reverse := by
      intro q hq
      rw [List.reverse_cons]
      exact hq.trans (List.prefix_append _ _)
    have hup : P (t.ensureUpwards above).1 :=
      ih (fun u q hq => step u q (habove hq)) (fun hq => made (habove hq))
    simp only [ensureUpwards]
    -- It is made at once, or once those above it are made, or not at all.
    split
    · next hm => exact made hself h hm
    · split
      · next he => rw [he] at hup; exact hup
      · next he =>
        rw [he] at hup
        split
        · next hm => exact made hself hup hm
        · exact hup
    · exact h

theorem ensureDir_induction {P : FileTree → Prop} {t : FileTree} {p : Path} (h : P t)
    (step : ∀ (u : FileTree) (q : Path), q.names <+: p.names → u.locate q = .ok none →
      P u → P (u.insert q .directory)) :
    P (t.ensureDir p).1 := by
  refine ensureUpwards_induction _ h fun u q hq => step u q ?_
  rwa [List.reverse_reverse] at hq

/-- Making directories on the way to a path touches no entries off the way. -/
theorem filter_ensureDir {f : Path × Entry → Bool} {p : Path} (t : FileTree)
    (h : ∀ q e, q.names <+: p.names → f (q, e) = false) :
    (t.ensureDir p).1.entries.filter f = t.entries.filter f := by
  refine ensureDir_induction (P := fun u => u.entries.filter f = t.entries.filter f) rfl ?_
  intro u q hq _ hu
  rw [filter_insert_of_not u _ fun e => h q e hq, hu]

theorem acceptDir_of_exists {t : FileTree} {p : Path} (h : t.locate p = .ok (some .directory)) :
    t.acceptDir p .exists = (t, .ok ()) := by
  have hg : t.get? p = some .directory := (locate_eq_ok h).symm
  simp [acceptDir, hg]

/-- A directory that is there is not made again. -/
theorem ensureDir_of_there {t : FileTree} {p : Path} (h : t.locate p = .ok (some .directory)) :
    t.ensureDir p = (t, .ok ()) := by
  unfold ensureDir
  cases hn : p.names.reverse with
  | nil => rfl
  | cons name above =>
    have hp : (⟨(name :: above).reverse⟩ : Path) = p := by
      rw [← hn, List.reverse_reverse]
    have hm : t.makeDir p = .error .exists := by simp only [makeDir, h]
    simp only [ensureUpwards, hp, hm, acceptDir_of_exists h]

/-! ## §3. Open ways. -/

/-- The way to a path is open: no file stands on it, and neither a name on it nor the path itself
is too long. -/
structure OpenTo (t : FileTree) (p : Path) : Prop where
  noFile : ∀ q : Path, q.names <+: p.names → ∀ text, t.get? q ≠ some (.file text)
  shortNames : ∀ name ∈ p.names, Text.utf8Length name ≤ maxNameLength
  shortPath : Text.utf8Length p.text ≤ maxPathLength

/-- In a tree of directories every way is open that is short. -/
theorem openTo_of_directories {t : FileTree} (p : Path) (hdir : ∀ e ∈ t.entries, e.2 = .directory)
    (hnames : ∀ name ∈ p.names, Text.utf8Length name ≤ maxNameLength)
    (hpath : Text.utf8Length p.text ≤ maxPathLength) : t.OpenTo p := by
  refine ⟨fun q _ text hget => ?_, hnames, hpath⟩
  by_cases hroot : q = .root
  · simp [get?, hroot] at hget
  · cases hdir (q, .file text) (mem_entries_of_get? hroot hget)

theorem OpenTo.of_child {t : FileTree} {p : Path} {name : String} (h : t.OpenTo (p.child name)) :
    t.OpenTo p := by
  refine ⟨fun q hq => h.noFile q (hq.trans (List.prefix_append _ _)), fun n hn => ?_, ?_⟩
  · exact h.shortNames n (List.mem_append_left _ hn)
  · exact Nat.le_trans (p.utf8Length_text_le_child name) h.shortPath

theorem OpenTo.short_child {t : FileTree} {p : Path} {name : String} (h : t.OpenTo (p.child name)) :
    Text.utf8Length name ≤ maxNameLength :=
  h.shortNames name (List.mem_append_right _ (by simp))

/-- Directories do not close a way. -/
theorem OpenTo.insert_directory {t : FileTree} {p : Path} (h : t.OpenTo p) (q : Path) :
    (t.insert q .directory).OpenTo p := by
  refine ⟨fun r hr text => ?_, h.shortNames, h.shortPath⟩
  -- Only at its own path does the directory change anything, and there it is no file.
  by_cases hq : r = q
  · subst hq
    by_cases hroot : r = .root
    · simp [get?, hroot]
    · rw [get?_insert_self t hroot]
      simp
  · rw [get?_insert_of_ne t hq]
    exact h.noFile r hr text

theorem OpenTo.ensureDir {t : FileTree} {p : Path} (h : t.OpenTo p) (q : Path) :
    (t.ensureDir q).1.OpenTo p :=
  ensureDir_induction (P := fun u => u.OpenTo p) h fun _ r _ _ hu => hu.insert_directory r

/-- On an open way a directory is found, or there is nothing yet. -/
theorem locate_of_openTo {t : FileTree} {p : Path} (h : t.OpenTo p) :
    t.locate p = .ok (some .directory) ∨ t.locate p = .ok none ∨ t.locate p = .error .noEntry := by
  obtain ⟨names⟩ := p
  -- The way to a path is the way to its directory, and one name more.
  induction names using List.reverseRecOn with
  | nil => exact .inl rfl
  | append_singleton names name ih =>
    have hc : (⟨names ++ [name]⟩ : Path) = (⟨names⟩ : Path).child name := rfl
    rw [hc] at h ⊢
    have hshort := h.shortPath
    rcases ih h.of_child with hp | hp | hp
    · rw [locate_child hp h.short_child hshort]
      cases hg : t.get? ((⟨names⟩ : Path).child name) with
      | none => exact .inr (.inl rfl)
      | some e =>
        cases e with
        | file text => exact absurd hg (h.noFile _ (List.prefix_refl _) text)
        | directory => exact .inl rfl
    · rw [locate_child_eq, if_neg (by omega), hp]
      exact .inr (.inr rfl)
    · rw [locate_child_eq, if_neg (by omega), hp]
      exact .inr (.inr rfl)

/-- In a directory that is there, a directory can be made unless it is there already. -/
theorem makeDir_of_openTo {t : FileTree} {p : Path} {name : String} (h : t.OpenTo (p.child name))
    (hdir : t.locate p = .ok (some .directory)) :
    t.makeDir (p.child name) = .ok (t.insert (p.child name) .directory) ∧
        t.locate (p.child name) = .ok none ∨
      t.makeDir (p.child name) = .error .exists ∧
        t.locate (p.child name) = .ok (some .directory) := by
  have hl := locate_child hdir h.short_child h.shortPath
  cases hg : t.get? (p.child name) with
  | none =>
    rw [hg] at hl
    exact .inl ⟨by simp only [makeDir, hl], hl⟩
  | some e =>
    cases e with
    | file text => exact absurd hg (h.noFile _ (List.prefix_refl _) text)
    | directory =>
      rw [hg] at hl
      exact .inr ⟨by simp only [makeDir, hl], hl⟩

/-- On an open way a directory is made, with all that is missing above it. -/
theorem ensureDir_of_openTo {t : FileTree} {p : Path} (h : t.OpenTo p) :
    (t.ensureDir p).2 = .ok () ∧ (t.ensureDir p).1.locate p = .ok (some .directory) := by
  obtain ⟨names⟩ := p
  unfold ensureDir
  induction names using List.reverseRecOn with
  | nil => exact ⟨rfl, rfl⟩
  | append_singleton names name ih =>
    have hc : (⟨names ++ [name]⟩ : Path) = (⟨names⟩ : Path).child name := rfl
    obtain ⟨hok, hthere⟩ := ih (hc ▸ h).of_child
    have hopen : (t.ensureUpwards names.reverse).1.OpenTo ((⟨names⟩ : Path).child name) :=
      (hc ▸ h).ensureDir ⟨names⟩
    have hpath : (⟨(name :: names.reverse).reverse⟩ : Path) = (⟨names⟩ : Path).child name := by
      simp [Path.child]
    rw [hc] at h ⊢
    simp only [Path.child, List.reverse_append, List.reverse_cons, List.reverse_nil,
      List.nil_append, List.cons_append, ensureUpwards]
    rw [← List.reverse_cons, hpath]
    generalize hu : t.ensureUpwards names.reverse = up at hok hthere hopen
    obtain ⟨u, r⟩ := up
    cases hok
    -- The directory is made now, or after those above it.
    rcases locate_of_openTo h.of_child with hdir | hmiss | hmiss
    · rcases makeDir_of_openTo h hdir with ⟨hm, hl⟩ | ⟨hm, hl⟩
      · rw [hm]
        exact ⟨rfl, locate_insert_self _ hl⟩
      · rw [hm]
        simp only [acceptDir_of_exists hl]
        exact ⟨trivial, hl⟩
    all_goals
      -- The directory above is missing: it is made first, and then this one.
      have hm : t.makeDir ((⟨names⟩ : Path).child name) = .error .noEntry := by
        have hshort := h.shortPath
        unfold makeDir
        rw [locate_child_eq, if_neg (by omega), hmiss]
      rw [hm]
      rcases makeDir_of_openTo hopen hthere with ⟨hm, hl⟩ | ⟨hm, hl⟩
      · simp only [hm]
        exact ⟨trivial, locate_insert_self _ hl⟩
      · simp only [hm, acceptDir_of_exists hl]
        exact ⟨trivial, hl⟩

end FileTree

end QuasiGrammar
