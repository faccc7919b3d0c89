import Mathlib.Data.List.Sort
import QuasiGrammar.Proofs.Files.Contents
import QuasiGrammar.Proofs.Files.Effects

/-
  QuasiGrammar.Proofs.Files.Removal
  ─────────────────────────────────
  A tree from which some files of one directory have been removed, one after the
  other, and nothing else has changed.

      Without.append         first some files have been removed, then others
      Without.children       the listing is the old one without the names
      delete_of_without      the other names can be deleted as before, or cannot

  A tree is a list of entries; that each path has one of them at most, in a
  directory and under a name that an entry can have, is what it has in common
  with a file system (`IsProper`).
-/

namespace QuasiGrammar

namespace FileTree

open GrammarDirectory (IsEntryName)

variable {t u v : FileTree} {p dir : Path} {name : String} {names : List String}

/-! ## §1. Trees of a file system. -/

/-- Every entry lies in a directory, has its path for itself, and a name that an entry can have. -/
structure IsProper (t : FileTree) : Prop where
  grounded : t.IsGrounded
  single : (t.entries.map (·.1)).Nodup
  names : ∀ e ∈ t.entries, ∀ name, e.1.name? = some name → IsEntryName name

theorem IsProper.noTwins (h : t.IsProper) (dir : Path) : t.NoTwins dir := by
  unfold NoTwins within
  exact h.single.sublist (List.filter_sublist.map _)

/-- What is listed has a name that an entry can have. -/
theorem IsProper.name_of_mem (h : t.IsProper) (hmem : name ∈ t.children dir) :
    IsEntryName name := by
  obtain ⟨e, he⟩ := Option.ne_none_iff_exists'.1 (mem_children_iff.1 hmem)
  have hentry := mem_entries_of_get? (Path.child_ne_root dir name) he
  exact h.names _ hentry name (Path.name?_child dir name)

/-- The tree of a file system stays one if a file is taken away. -/
theorem IsProper.erase (h : t.IsProper) (hfile : t.get? p ≠ some .directory) :
    (t.erase p).IsProper where
  grounded := h.grounded.erase hfile
  single := h.single.sublist (List.filter_sublist.map _)
  names := fun e he => h.names e (List.mem_filter.1 he).1

/-! ## §2. Trees without some files of a directory. -/

/-- Some names of a directory lead to nothing, and all else is as it was. -/
structure Without (dir : Path) (names : List String) (t u : FileTree) : Prop where
  gone : ∀ name ∈ names, u.get? (dir.child name) = none
  others : ∀ q, (∀ name ∈ names, q ≠ dir.child name) → u.get? q = t.get? q

namespace Without

theorem nil (dir : Path) (t : FileTree) : Without dir [] t t :=
  ⟨fun _ h => absurd h List.not_mem_nil, fun _ _ => rfl⟩

/-- One file has been removed. -/
theorem single (h : Deletes (dir.child name) t u) : Without dir [name] t u where
  gone := by
    intro other hother
    rw [List.mem_singleton.1 hother]
    exact h.gone
  others := by
    intro q hq
    exact h.others q (hq name List.mem_cons_self)

theorem get?_child (h : Without dir names t u) (hname : name ∉ names) :
    u.get? (dir.child name) = t.get? (dir.child name) := by
  apply h.others
  intro n hn heq
  rw [Path.child_inj.1 heq] at hname
  exact hname hn

/-- After some names more of them have been removed. -/
theorem append {more : List String} (h : Without dir names t u) (h' : Without dir more u v) :
    Without dir (names ++ more) t v where
  gone := by
    intro name hname
    by_cases hmem : name ∈ more
    · exact h'.gone name hmem
    · -- Nothing has come back to its path.
      have hfirst : name ∈ names := (List.mem_append.1 hname).resolve_right hmem
      rw [h'.get?_child hmem]
      exact h.gone name hfirst
  others := by
    intro q hq
    rw [h'.others q fun n hn => hq n (List.mem_append_right _ hn),
      h.others q fun n hn => hq n (List.mem_append_left _ hn)]

/-- The way to the directory is as it was. -/
theorem locate (h : Without dir names t u) : u.locate dir = t.locate dir := by
  apply locate_congr
  intro q hq
  apply h.others
  intro n _ heq
  subst heq
  exact child_not_above dir n hq

/-- The way to a name that has not been removed is as it was. -/
theorem locate_child (h : Without dir names t u) (hname : name ∉ names) :
    u.locate (dir.child name) = t.locate (dir.child name) := by
  rw [locate_child_eq, locate_child_eq, h.locate, get?_child h hname]

/-- The listing is the old one without the names. -/
theorem children (h : Without dir names t u) (ht : t.IsProper) (hu : u.IsProper) :
    u.children dir = (t.children dir).filter (· ∉ names) := by
  have hsorted := (ht.noTwins dir).children_strictSorted.filter fun n => decide (n ∉ names)
  refine (hu.noTwins dir).children_strictSorted.eq_of_mem_iff hsorted ?_
  intro n
  rw [mem_children_iff, List.mem_filter, mem_children_iff, decide_eq_true_iff]
  by_cases hn : n ∈ names
  · simp [h.gone n hn, hn]
  · rw [h.get?_child hn]
    simp [hn]

end Without

end FileTree

/-! ## §3. Deleting in a directory. -/

namespace GrammarDirectory

variable {d : GrammarDirectory} {t u : FileTree} {name : String} {names : List String}

theorem isProper_delete (h : t.IsProper) (d : GrammarDirectory) (name : String) :
    (d.delete t name).1.IsProper := by
  generalize hdel : d.delete t name = result
  obtain ⟨u, r⟩ := result
  cases hp : d.resolve name with
  | error f =>
    rw [delete_unresolved hp] at hdel
    cases hdel
    exact h
  | ok p =>
    rcases delete_cases hp hdel with hsame | ⟨-, ⟨text, hfile⟩, hu⟩
    · rw [hsame]
      exact h
    · rw [hu]
      exact h.erase (by rw [hfile]; simp)

/-- What a deletion comes to is decided by what is found at the path. -/
theorem delete_congr {p : Path} (hp : d.resolve name = .ok p) (h : t.locate p = u.locate p) :
    (d.delete t name).2 = (d.delete u name).2 := by
  unfold delete FileTree.remove
  rw [hp]
  simp only [h]
  cases u.locate p with
  | error r => cases r <;> rfl
  | ok e =>
    cases e with
    | none => rfl
    | some e => cases e <;> rfl

/-- A name that has not been removed can be deleted as before, or cannot. -/
theorem delete_of_without (h : FileTree.Without d.root names t u) (hentry : IsEntryName name)
    (hname : name ∉ names) : (d.delete u name).2 = (d.delete t name).2 :=
  delete_congr (resolve_entry d hentry) (h.locate_child hname)

end GrammarDirectory

end QuasiGrammar
