import QuasiGrammar.Proofs.Publish.Slots
import QuasiGrammar.Proofs.Settings.Reading

/-
  QuasiGrammar.Proofs.Publish.Prefix
  ──────────────────────────────────
  **Which settings keep the grammar files inside the grammar directory.**

  A settings file gives the text that the names of the files begin with, and
  this text is taken as it stands.  The file of every document that can be
  encoded lies directly in the directory, under its own name, just if there is
  neither a slash nor a NUL in it (`keeps_iff`): with a NUL there is no file at
  all, and a slash divides the name, so that the file has only the last part of
  it and may lie elsewhere.
-/

namespace QuasiGrammar

open Text

/-! ## §1. Names with a slash. -/

/-- The last part of a divided name is the name of the entry that it leads to. -/
theorem Path.resolve?_divided (base : Path) {name : String} {before last : List Char}
    (hname : name.toList = before ++ '/' :: last) (hslash : '/' ∉ last)
    (hnul : '\x00' ∉ name.toList) (hlast : last ≠ [] ∧ last ≠ ['.'] ∧ last ≠ ['.', '.']) :
    ∃ p : Path, base.resolve? name = some (p.child (String.ofList last)) := by
  have hcontains : name.toList.contains '\x00' = false := by simpa using hnul
  have hplain : ∀ p : Path, p.follow last = p.child (String.ofList last) := fun p => by
    simp [Path.follow, hlast.1, hlast.2.1, hlast.2.2]
  unfold Path.resolve?
  simp only [hcontains]
  rw [hname, splitAll_concat before hslash, List.foldl_append]
  exact ⟨_, congrArg some (hplain _)⟩

namespace Store

/-- A slash in the prefix divides the names of the files. -/
theorem nameOf_divided {s : Store} (h : '/' ∈ s.filePrefix.toList) (text : String) :
    ∃ before last : List Char, (s.nameOf text).toList = before ++ '/' :: last ∧ '/' ∉ last ∧
      digestLength ≤ last.length := by
  obtain ⟨⟨before, after⟩, hsplit⟩ :=
    Option.ne_none_iff_exists'.1 (mt splitLast?_eq_none_iff.1 (not_not.2 h))
  obtain ⟨hbegin, hafter⟩ := splitLast?_eq_some hsplit
  obtain ⟨hlength, hdigits⟩ := digest_digits text
  refine ⟨before, after ++ '-' :: ((Digest.ofText text).toList ++ fileSuffix.toList), ?_, ?_, ?_⟩
  · simp [nameOf, filenameFor, hbegin, String.toList_append]
  · -- Only the prefix holds a slash, and the last one is behind us.
    intro hmem
    rcases List.mem_append.1 hmem with hmem | hmem
    · exact hafter hmem
    rcases List.mem_cons.1 hmem with hmem | hmem
    · exact absurd hmem (by decide)
    rcases List.mem_append.1 hmem with hmem | hmem
    · exact (ne_of_isDigestDigit (List.all_eq_true.1 hdigits _ hmem)).1 rfl
    · exact (ne_of_mem_fileSuffix hmem).1 rfl
  · simp only [List.length_append, List.length_cons, hlength]
    omega

/-- With a slash in the prefix no file has the name of its entry. -/
theorem path_ne_child {s : Store} (h : '/' ∈ s.filePrefix.toList) {text : String} {e : StoreEntry}
    (he : s.entry text = .ok e) : e.path ≠ s.directory.root.child e.filename := by
  obtain ⟨before, last, hname, hslash, hlength⟩ := nameOf_divided h text
  have hshort : ∀ cs : List Char, cs.length < digestLength → last ≠ cs := by
    rintro cs hcs rfl
    omega
  unfold entry at he
  simp only [GrammarDirectory.resolve] at he
  rw [show s.filenameFor (Digest.ofText text) = s.nameOf text from rfl] at he
  by_cases hnul : '\x00' ∈ (s.nameOf text).toList
  · rw [Path.resolve?_eq_none_iff.2 hnul] at he
    cases he
  · obtain ⟨p, hp⟩ := s.directory.root.resolve?_divided hname hslash hnul
      ⟨hshort _ (by decide), hshort _ (by decide), hshort _ (by decide)⟩
    rw [hp] at he
    cases he
    intro hc
    -- The name of the entry has a slash, and the last part of it has none.
    have hlast : last = (s.nameOf text).toList := by
      have := congrArg Path.name? hc
      rw [Path.name?_child, Path.name?_child, Option.some.injEq] at this
      rw [show s.nameOf text = String.ofList last from this.symm, String.toList_ofList]
    exact hslash (hlast ▸ hname ▸ List.mem_append_right _ List.mem_cons_self)

/-! ## §2. Names with a NUL. -/

theorem nul_mem_nameOf (s : Store) (text : String) :
    '\x00' ∈ (s.nameOf text).toList ↔ '\x00' ∈ s.filePrefix.toList := by
  constructor
  · intro h
    rcases mem_of_isGenerated (s.isGenerated_nameOf text) h with h | h
    · exact h
    · exact absurd rfl h.2
  · intro h
    simp [nameOf, filenameFor, String.toList_append, h]

/-- A text has no entry just if there is a NUL in the prefix. -/
theorem entry_eq_error_iff (s : Store) (text : String) {f : Failure} :
    s.entry text = .error f ↔ '\x00' ∈ s.filePrefix.toList ∧ f = .defect .nulInPath := by
  unfold entry
  simp only [GrammarDirectory.resolve]
  have hnone : s.directory.root.resolve? (s.nameOf text) = none ↔ _ := Path.resolve?_eq_none_iff
  rw [← nul_mem_nameOf s text, ← hnone,
    show s.filenameFor (Digest.ofText text) = s.nameOf text from rfl]
  cases s.directory.root.resolve? (s.nameOf text) with
  | none => simp [eq_comm]
  | some p => simp

/-! ## §3. Files inside the directory. -/

/-- The file of an entry stays in the directory of a store: it lies directly in it and has the
entry's name, which the store knows for one of its own, and which the directory lists once the file
has been written. -/
structure Keeps (s : Store) (e : StoreEntry) : Prop where
  inside : e.path = s.directory.root.child e.filename
  generated : s.isGenerated e.filename = true
  listed : ∀ {t u : FileTree} {text : String}, s.directory.write t e.filename text = (u, .ok ()) →
    ∃ names, s.directory.list u = .ok names ∧ e.filename ∈ names

theorem list_of_located {s : Store} {t : FileTree}
    (h : t.locate s.directory.root = .ok (some .directory)) :
    s.directory.list t = .ok (t.children s.directory.root) := by
  simp [GrammarDirectory.list, FileTree.look, h]

theorem keeps_of_plain {s : Store} (hs : s.HasPlainPrefix) (text : String) :
    ∃ e, s.entry text = .ok e ∧ s.Keeps e := by
  refine ⟨_, entry_eq hs text, rfl, s.isGenerated_nameOf text, fun {t u written} hwrite => ?_⟩
  have hgen := s.isGenerated_nameOf text
  obtain ⟨-, hslots, hdir⟩ | ⟨⟨f, hf⟩, -⟩ := write_slot hs hgen hwrite
  · refine ⟨_, list_of_located hdir, ?_⟩
    -- The names of the slots are among those that the listing shows.
    have hmem : s.nameOf text ∈ s.generatedNames u := by
      rw [(s.generatedNames_perm u).mem_iff, hslots, List.filterMap_cons]
      simp [pathTo]
    exact (List.mem_filter.1 hmem).1
  · cases hf

theorem plain_of_keeps {s : Store} {text : String} {e : StoreEntry} (he : s.entry text = .ok e)
    (h : s.Keeps e) : s.HasPlainPrefix where
  noSlash := fun hslash => path_ne_child hslash he h.inside
  noNul := fun hnul => by
    have := (s.entry_eq_error_iff text).2 ⟨hnul, rfl⟩
    rw [he] at this
    cases this

/-- The text that a settings file wants the names of the files to begin with. -/
def WantsPrefix (p : Path) (file : SettingsFile) (filePrefix : String) : Prop :=
  ∃ inner, Settings.HasSection p file inner ∧
    Settings.textOf (Settings.valueIn inner "filePrefix" ({} : Settings).filePrefix) = .ok filePrefix

/-- A settings file with one setting, the prefix, in a plain scalar. -/
def prefixFile (scalar : String) : SettingsFile :=
  .octets (encodeUtf8 ("ttlGrammar:\n  filePrefix: " ++ scalar ++ "\n"))

/-- A store with a prefix. -/
def prefixStore (filePrefix : String) : Store :=
  ⟨⟨⟨["T", "grammars"]⟩⟩, Document.defaultScope, filePrefix, "language-babel"⟩

/-- The file of a document stays in the directory just if it can be encoded and the prefix is
plain. -/
theorem keeps_entryOf_iff (s : Store) (text : LooseText) :
    (∃ e, s.entryOf text = .ok e ∧ s.Keeps e) ↔ (∃ chars, text = .of chars) ∧ s.HasPlainPrefix := by
  constructor
  · rintro ⟨e, he, hkeeps⟩
    cases hfault : text.fault? with
    | some fault =>
      rw [s.entryOf_of_fault hfault] at he
      cases he
    | none =>
      obtain ⟨chars, rfl⟩ := LooseText.fault?_eq_none_iff.1 hfault
      rw [entryOf_of] at he
      exact ⟨⟨chars, rfl⟩, plain_of_keeps he hkeeps⟩
  · rintro ⟨⟨chars, rfl⟩, hplain⟩
    rw [entryOf_of]
    exact keeps_of_plain hplain chars

theorem entryOf_eq_error_iff (s : Store) (text : LooseText) {f : Failure} :
    s.entryOf text = .error f ↔
      (∃ fault, text.fault? = some fault ∧ f = .defect (.noUtf8Form fault)) ∨
        text.fault? = none ∧ '\x00' ∈ s.filePrefix.toList ∧ f = .defect .nulInPath := by
  cases hfault : text.fault? with
  | some fault =>
    rw [s.entryOf_of_fault hfault]
    simp [eq_comm]
  | none =>
    obtain ⟨chars, rfl⟩ := LooseText.fault?_eq_none_iff.1 hfault
    rw [entryOf_of, entry_eq_error_iff]
    simp

end Store

end QuasiGrammar
