import Mathlib.Data.List.Nodup
import QuasiGrammar.Proofs.Files.Place

/-
  QuasiGrammar.Proofs.Files.Listing
  ─────────────────────────────────
  The names in a directory of a tree.

      mem_children_iff        a name is listed just if it leads to something
      children_strictSorted   the names come in strictly rising order, if there are no two
                              entries of one path in the directory
      NoTwins.insert, …       and there are never two

  A tree is a list of entries, and only the first one of a path counts; that
  there is no other is a matter of how the list is changed.
-/

namespace QuasiGrammar.FileTree

variable {t : FileTree} {dir p : Path} {name : String}

/-! ## §1. The entries in a directory. -/

/-- Whether a path is that of an entry in a directory. -/
def liesIn (dir p : Path) : Bool := p ≠ .root && p.parent = dir

/-- The entries in a directory. -/
def within (t : FileTree) (dir : Path) : List (Path × Entry) :=
  t.entries.filter fun e => liesIn dir e.1

/-- There are no two entries of one path in the directory. -/
def NoTwins (t : FileTree) (dir : Path) : Prop := ((t.within dir).map (·.1)).Nodup

theorem liesIn_iff : liesIn dir p = true ↔ ∃ name, p = dir.child name := by
  unfold liesIn
  rw [Bool.and_eq_true, decide_eq_true_iff, decide_eq_true_iff]
  constructor
  · intro ⟨hroot, hparent⟩
    obtain ⟨name, hname⟩ := Option.ne_none_iff_exists'.1 fun h => hroot (Path.name?_eq_none h)
    rw [← hparent]
    exact ⟨name, Path.eq_child_of_name? hname⟩
  · intro ⟨name, hp⟩
    subst hp
    exact ⟨Path.child_ne_root dir name, Path.parent_child dir name⟩

/-- The way to a directory does not lead through it. -/
theorem liesIn_of_above (h : p.names <+: dir.names) : liesIn dir p = false := by
  rw [← Bool.not_eq_true, liesIn_iff]
  intro ⟨name, hp⟩
  subst hp
  exact child_not_above dir name h

theorem mem_within {e : Path × Entry} :
    e ∈ t.within dir ↔ e ∈ t.entries ∧ ∃ name, e.1 = dir.child name := by
  unfold within
  rw [List.mem_filter, liesIn_iff]

/-! ## §2. Their names. -/

theorem children_perm (t : FileTree) (dir : Path) :
    (t.children dir).Perm ((t.within dir).filterMap fun e => e.1.name?) :=
  List.mergeSort_perm _ _

/-- **A name is listed just if it leads to something in the directory.** -/
theorem mem_children_iff : name ∈ t.children dir ↔ t.get? (dir.child name) ≠ none := by
  rw [(children_perm t dir).mem_iff, List.mem_filterMap]
  constructor
  · intro ⟨e, he, hname⟩ hnone
    obtain ⟨hmem, other, hp⟩ := mem_within.1 he
    rw [hp, Path.name?_child, Option.some.injEq] at hname
    subst hname
    -- The entry is one of that path, so a look there finds it, or another one before it.
    rw [get?, if_neg (Path.child_ne_root dir other), List.lookup_eq_none_iff] at hnone
    simpa [hp] using hnone e hmem
  · intro hsome
    obtain ⟨e, he⟩ := Option.ne_none_iff_exists'.1 hsome
    have hmem := mem_entries_of_get? (Path.child_ne_root dir name) he
    exact ⟨_, mem_within.2 ⟨hmem, name, rfl⟩, Path.name?_child dir name⟩

/-- The paths in a directory are given by their names. -/
theorem map_child_names (t : FileTree) (dir : Path) :
    ((t.within dir).filterMap fun e => e.1.name?).map dir.child = (t.within dir).map (·.1) := by
  rw [List.map_filterMap, ← List.filterMap_eq_map]
  refine List.filterMap_congr fun e he => ?_
  obtain ⟨-, name, hp⟩ := mem_within.1 he
  simp [hp]

theorem NoTwins.nodup_children (h : t.NoTwins dir) : (t.children dir).Nodup := by
  rw [(children_perm t dir).nodup_iff]
  have hpaths := h
  unfold NoTwins at hpaths
  rw [← map_child_names] at hpaths
  exact hpaths.of_map dir.child

/-- **The names of a directory come in strictly rising order.** -/
theorem NoTwins.children_strictSorted (h : t.NoTwins dir) :
    (t.children dir).Pairwise (· < ·) := by
  have hsorted : (t.children dir).Pairwise fun a b => decide (a ≤ b) = true := by
    refine List.pairwise_mergeSort ?_ ?_ _
    · intro a b c hab hbc
      exact decide_eq_true (String.le_trans (of_decide_eq_true hab) (of_decide_eq_true hbc))
    · intro a b
      simpa using String.le_total a b
  refine (hsorted.and h.nodup_children).imp fun {a b} ⟨hle, hne⟩ => ?_
  -- What is not smaller is at least as great, and then both are the same.
  refine Decidable.byContradiction fun hlt => hne ?_
  exact String.le_antisymm (of_decide_eq_true hle) (String.not_lt.1 hlt)

/-! ## §3. Changes. -/

theorem NoTwins.erase (h : t.NoTwins dir) (p : Path) : (t.erase p).NoTwins dir := by
  unfold NoTwins within
  rw [filter_erase]
  exact h.sublist (List.filter_sublist.map _)

theorem NoTwins.insert_child (h : t.NoTwins dir) (name : String) (e : Entry) :
    (t.insert (dir.child name) e).NoTwins dir := by
  unfold NoTwins within
  rw [filter_insert t (liesIn_iff.2 ⟨name, rfl⟩), List.map_cons, List.nodup_cons]
  refine ⟨?_, h.sublist (List.filter_sublist.map _)⟩
  -- All older entries of the path have been taken away.
  intro hmem
  obtain ⟨old, hold, hpath⟩ := List.mem_map.1 hmem
  simpa [hpath] using (List.mem_filter.1 hold).2

theorem within_ensureDir (t : FileTree) (dir : Path) :
    (t.ensureDir dir).1.within dir = t.within dir :=
  filter_ensureDir t fun _ _ hq => liesIn_of_above hq

theorem NoTwins.ensureDir (h : t.NoTwins dir) : (t.ensureDir dir).1.NoTwins dir := by
  unfold NoTwins
  rw [within_ensureDir]
  exact h

end QuasiGrammar.FileTree
