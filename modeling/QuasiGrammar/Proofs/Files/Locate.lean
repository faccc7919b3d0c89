import QuasiGrammar.Files.Directory
import QuasiGrammar.Total

/-
  QuasiGrammar.Proofs.Files.Locate
  ────────────────────────────────
  Where a path leads.  A path is located by what lies on the way to it:

      locate_congr         trees that agree on the way agree on what is located
      locate_child         in a directory, a short name leads to its entry
      locate_child_eq_ok   what is located by a name lies in a directory

  and a name that is neither dotted nor divided leads from a directory to an
  entry of that directory (`resolve?_plain`).
-/

namespace QuasiGrammar

open Text

/-! ## §1. Paths and their names. -/

theorem utf8ByteSize_ofList_of_ascii {cs : List Char} (h : ∀ c ∈ cs, c.utf8Size = 1) :
    (String.ofList cs).utf8ByteSize = cs.length := by
  induction cs with
  | nil => rfl
  | cons c rest ih =>
    have hc := h c List.mem_cons_self
    have hrest := ih fun c' hc' => h c' (List.mem_cons_of_mem _ hc')
    rw [String.ofList_cons, String.utf8ByteSize_append, hrest]
    simp only [String.utf8ByteSize_singleton, hc, List.length_cons]
    omega

namespace Path

@[simp]
theorem parent_child (p : Path) (name : String) : (p.child name).parent = p := by
  simp [child, parent]

@[simp]
theorem name?_child (p : Path) (name : String) : (p.child name).name? = some name := by
  simp [child, name?]

@[simp]
theorem child_ne_root (p : Path) (name : String) : p.child name ≠ root := by
  simp [child, root, Path.ext_iff]

@[simp]
theorem child_inj {p : Path} {m n : String} : p.child m = p.child n ↔ m = n := by
  simp [child, Path.ext_iff]

theorem eq_child_of_name? {p : Path} {name : String} (h : p.name? = some name) :
    p = p.parent.child name := by
  obtain ⟨ns, hns⟩ := List.getLast?_eq_some_iff.1 h
  refine Path.ext ?_
  simp [parent, child, hns]

theorem name?_eq_none {p : Path} (h : p.name? = none) : p = root :=
  Path.ext (List.getLast?_eq_none_iff.1 h)

/-- A path has a slash before each of its names. -/
theorem utf8Length_text {p : Path} (h : p.names ≠ []) :
    utf8Length p.text = total (fun name => utf8Length name + 1) p.names := by
  have hone : "/".utf8ByteSize = 1 := by decide
  unfold utf8Length text
  generalize p.names = names at h
  induction names with
  | nil => exact absurd rfl h
  | cons name rest ih =>
    rw [total_cons]
    by_cases hrest : rest = []
    · subst hrest
      simp only [String.intercalate_singleton, String.utf8ByteSize_append, total_nil]
      omega
    · have hmore := ih hrest
      rw [String.intercalate_cons_of_ne_nil hrest]
      simp only [String.utf8ByteSize_append] at hmore ⊢
      omega

/-- A path is no longer, written out, than the paths of its entries. -/
theorem utf8Length_text_le_child (p : Path) (name : String) :
    utf8Length p.text ≤ utf8Length (p.child name).text := by
  have hone : "/".utf8ByteSize = 1 := by decide
  unfold utf8Length text child
  rcases List.eq_nil_or_concat p.names with h | ⟨ns, n, h⟩
  · rw [h]
    simp
  · have hne : p.names ≠ [] := by rw [h]; simp
    rw [String.intercalate_append_of_ne_nil hne (by simp)]
    simp only [String.utf8ByteSize_append, hone, String.intercalate_singleton]
    omega

end Path

/-! ## §2. Following a plain name. -/

/-- A name that names an entry of a directory: it is not empty, holds neither a slash nor a NUL,
and is neither of the two names of dots. -/
structure IsPlainName (name : String) : Prop where
  noSlash : '/' ∉ name.toList
  noNul : '\x00' ∉ name.toList
  notEmpty : name.toList ≠ []
  notDot : name.toList ≠ ['.']
  notDots : name.toList ≠ ['.', '.']

theorem Path.resolve?_plain (base : Path) {name : String} (h : IsPlainName name) :
    base.resolve? name = some (base.child name) := by
  have hnul : name.toList.contains '\x00' = false := by
    simpa using h.noNul
  have hhead : name.toList.head? ≠ some '/' := by
    intro hc
    exact h.noSlash (List.mem_of_head? hc)
  -- The name is the only part, and it stands for itself.
  have hparts : splitAll '/' name.toList = [name.toList] := splitAll_of_notMem h.noSlash
  have hdots : ¬ (name.toList = [] || name.toList = ['.']) = true := by
    simp [h.notEmpty, h.notDot]
  unfold Path.resolve?
  simp only [hnul, if_neg hhead, hparts, List.foldl_cons, List.foldl_nil]
  rw [Path.follow, if_neg hdots, if_neg h.notDots, String.ofList_toList]
  rfl

/-! ## §3. Walking. -/

namespace FileTree

/-- A walk sees only what the names on its way lead to. -/
theorem walk_congr {here : Option Entry} {inside other : Inside} {names : List String}
    (h : ∀ ns, ns <+: names → ns ≠ [] → inside.lookup ns = other.lookup ns) :
    walk here inside names = walk here other names := by
  -- After the first step the walk goes on below that name, in both trees.
  induction names generalizing here inside other with
  | nil => rfl
  | cons name rest ih =>
    have hfirst : (inside.under name).lookup [] = (other.under name).lookup [] := by
      rw [lookup_under, lookup_under]
      exact h [name] (by simp) (by simp)
    have hrest : ∀ e, walk e (inside.under name) rest = walk e (other.under name) rest := by
      intro e
      refine ih fun ns hns _ => ?_
      rw [lookup_under, lookup_under]
      exact h (name :: ns) (List.cons_prefix_cons.2 ⟨rfl, hns⟩) (by simp)
    simp only [walk, hfirst, hrest]

/-- The last step of a walk. -/
theorem walk_concat (here : Option Entry) (inside : Inside) (names : List String) (name : String) :
    walk here inside (names ++ [name]) =
      match walk here inside names with
      | .error r => .error r
      | .ok none => .error .noEntry
      | .ok (some (.file _)) => .error .notDirectory
      | .ok (some .directory) =>
          if maxNameLength < utf8Length name then .error .nameTooLong
          else .ok (inside.lookup (names ++ [name])) := by
  induction names generalizing here inside with
  | nil =>
    rcases here with _ | ⟨_⟩ | _
    · rfl
    · rfl
    · simp only [List.nil_append, walk]
      rw [lookup_under]
  | cons first rest ih =>
    rcases here with _ | ⟨_⟩ | _
    · rfl
    · rfl
    · have hlast := lookup_under first inside (rest ++ [name])
      by_cases hlong : maxNameLength < utf8Length first
      · simp only [List.cons_append, walk, if_pos hlong]
      · simp only [List.cons_append, walk, if_neg hlong]
        rw [ih, hlast]

theorem get?_of_ne_root (t : FileTree) {p : Path} (h : p ≠ .root) :
    t.get? p = t.inside.lookup p.names := by
  rw [get?, if_neg h, lookup_inside]

theorem locate_congr {t u : FileTree} {p : Path}
    (h : ∀ q : Path, q.names <+: p.names → t.get? q = u.get? q) : t.locate p = u.locate p := by
  have hwalk : walk (some .directory) t.inside p.names = walk (some .directory) u.inside p.names := by
    refine walk_congr fun ns hns hne => ?_
    -- The walk begins below the root, which is there in every tree.
    have hroot : (⟨ns⟩ : Path) ≠ .root := by simpa [Path.root, Path.ext_iff] using hne
    have := h ⟨ns⟩ hns
    rwa [get?_of_ne_root t hroot, get?_of_ne_root u hroot] at this
  unfold locate
  rw [hwalk]

/-- A name is located in the directory that its path lies in. -/
theorem locate_child_eq (t : FileTree) (p : Path) (name : String) :
    t.locate (p.child name) =
      if maxPathLength < utf8Length (p.child name).text then .error .nameTooLong
      else
        match t.locate p with
        | .error r => .error r
        | .ok none => .error .noEntry
        | .ok (some (.file _)) => .error .notDirectory
        | .ok (some .directory) =>
            if maxNameLength < utf8Length name then .error .nameTooLong
            else .ok (t.get? (p.child name)) := by
  unfold locate
  by_cases hlong : maxPathLength < utf8Length (p.child name).text
  · rw [if_pos hlong, if_pos hlong]
  · -- If the path of the name is short enough, then that of its directory is.
    have hle := p.utf8Length_text_le_child name
    have hshort : ¬ maxPathLength < utf8Length p.text := by omega
    rw [if_neg hlong, if_neg hlong, if_neg hshort, get?_of_ne_root t (p.child_ne_root name)]
    exact walk_concat _ _ _ _

/-- A name that is not too long leads from a directory to its entry. -/
theorem locate_child {t : FileTree} {p : Path} {name : String}
    (hdir : t.locate p = .ok (some .directory)) (hname : utf8Length name ≤ maxNameLength)
    (hpath : utf8Length (p.child name).text ≤ maxPathLength) :
    t.locate (p.child name) = .ok (t.get? (p.child name)) := by
  rw [locate_child_eq, if_neg (by omega), hdir]
  exact if_neg (by omega)

theorem locate_child_eq_ok {t : FileTree} {p : Path} {name : String} {e : Option Entry}
    (h : t.locate (p.child name) = .ok e) :
    t.locate p = .ok (some .directory) ∧ e = t.get? (p.child name) := by
  refine ⟨?_, locate_eq_ok h⟩
  rw [locate_child_eq] at h
  split at h
  · cases h
  · split at h
    · cases h
    · cases h
    · cases h
    · assumption

/-- In a directory a name leads to its entry, unless the name or its path is too long. -/
theorem locate_child_cases {t : FileTree} {p : Path} (name : String)
    (hdir : t.locate p = .ok (some .directory)) :
    t.locate (p.child name) = .ok (t.get? (p.child name)) ∨
      t.locate (p.child name) = .error .nameTooLong := by
  rw [locate_child_eq, hdir]
  by_cases hpath : maxPathLength < utf8Length (p.child name).text
  · exact .inr (if_pos hpath)
  · rw [if_neg hpath]
    by_cases hname : maxNameLength < utf8Length name
    · exact .inr (if_pos hname)
    · exact .inl (if_neg hname)

/-- What keeps a name in a directory from being located is its length. -/
theorem locate_child_ne_noEntry {t : FileTree} {p : Path} {name : String}
    (hdir : t.locate p = .ok (some .directory)) : t.locate (p.child name) ≠ .error .noEntry := by
  rcases locate_child_cases name hdir with hl | hl
  · rw [hl]
    exact fun h => nomatch h
  · rw [hl]
    exact fun h => nomatch h

end FileTree

end QuasiGrammar
