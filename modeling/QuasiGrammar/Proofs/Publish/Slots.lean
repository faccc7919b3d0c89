import Mathlib.Data.List.Basic
import Mathlib.Tactic.IntervalCases
import QuasiGrammar.Proofs.Files.Frame
import QuasiGrammar.Publish.Store

/-
  QuasiGrammar.Proofs.Publish.Slots
  ─────────────────────────────────
  The slots of a store: the entries of its directory whose names are of the
  form that it gives to its files.  With a plain prefix every such name leads
  to its slot, and so the operations on the directory act on slots:

      delete_slot    takes one slot away, if it changes anything
      write_slot     fills one slot, if it changes any
      list_eq_ok     lists the names of all slots, among others
      hasFile_eq_ok  finds a slot that is filled
-/

namespace QuasiGrammar

open Text

namespace Store

/-! ## §1. Generated names. -/

/-- The prefix of the file names neither divides them nor ends them. -/
structure HasPlainPrefix (s : Store) : Prop where
  noSlash : '/' ∉ s.filePrefix.toList
  noNul : '\x00' ∉ s.filePrefix.toList

/-- The name of the file of a text. -/
def nameOf (s : Store) (text : String) : String := s.filenameFor (Digest.ofText text)

/-- The path of a name in the directory. -/
def pathTo (s : Store) (name : String) : Path := s.directory.root.child name

theorem isGenerated_iff {s : Store} {name : String} :
    s.isGenerated name = true ↔
      ∃ digits : List Char, digits.length = digestLength ∧ digits.all isDigestDigit = true ∧
        ∃ tail, (tail = fileSuffix.toList ∨ tail = fileSuffix.toList ++ ['\n']) ∧
          name.toList = (s.filePrefix ++ "-").toList ++ (digits ++ tail) := by
  unfold isGenerated
  constructor
  · intro h
    split at h
    · cases h
    · next rest hrest =>
      simp only [Bool.and_eq_true, Bool.or_eq_true, beq_iff_eq] at h
      refine ⟨rest.take digestLength, h.1.1, h.1.2, rest.drop digestLength, h.2, ?_⟩
      rw [List.take_append_drop]
      exact dropText?_eq_some_iff.1 hrest
  · rintro ⟨digits, hlen, hall, tail, htail, hname⟩
    rw [dropText?_eq_some_iff.2 hname]
    have htake : (digits ++ tail).take digestLength = digits := by
      rw [← hlen]
      exact List.take_left
    have hdrop : (digits ++ tail).drop digestLength = tail := by
      rw [← hlen]
      exact List.drop_left
    simp only [htake, hdrop, hlen, hall, beq_self_eq_true, Bool.true_and, Bool.or_eq_true,
      beq_iff_eq]
    exact htail

theorem isDigestDigit_digitChar {n : Nat} (h : n < 16) : isDigestDigit n.digitChar = true := by
  interval_cases n <;> rfl

theorem all_isDigestDigit_hexDigits (width n : Nat) :
    (hexDigits width n).all isDigestDigit = true := by
  induction width generalizing n with
  | zero => rfl
  | succ width ih =>
    simp only [hexDigits, List.all_append, ih, List.all_cons, List.all_nil, Bool.and_true,
      Bool.true_and]
    exact isDigestDigit_digitChar (Nat.mod_lt _ (by decide))

theorem length_sha256 (message : List UInt8) : (Digest.sha256 message).length = 8 := rfl

/-- A digest is sixty-four digits. -/
theorem digest_digits (text : String) :
    (Digest.ofText text).toList.length = digestLength ∧
      (Digest.ofText text).toList.all isDigestDigit = true := by
  unfold Digest.ofText
  rw [String.toList_ofList]
  constructor
  · have h8 := length_sha256 text.toUTF8.data.toList
    rw [List.length_flatMap]
    simp only [length_hexDigits, List.map_const', List.sum_replicate_nat, h8]
    rfl
  · rw [List.all_flatMap, List.all_eq_true]
    exact fun w _ => all_isDigestDigit_hexDigits 8 w.toNat

/-- The store knows the names that it gives. -/
theorem isGenerated_nameOf (s : Store) (text : String) : s.isGenerated (s.nameOf text) = true := by
  obtain ⟨hlen, hall⟩ := digest_digits text
  refine isGenerated_iff.2 ⟨_, hlen, hall, fileSuffix.toList, .inl rfl, ?_⟩
  simp [nameOf, filenameFor, String.toList_append]

theorem ne_of_isDigestDigit {c : Char} (h : isDigestDigit c = true) : c ≠ '/' ∧ c ≠ '\x00' := by
  constructor
  · rintro rfl
    exact absurd h (by decide)
  · rintro rfl
    exact absurd h (by decide)

theorem ne_of_mem_fileSuffix {c : Char} (h : c ∈ fileSuffix.toList) : c ≠ '/' ∧ c ≠ '\x00' := by
  constructor
  · rintro rfl
    exact absurd h (by decide)
  · rintro rfl
    exact absurd h (by decide)

/-- Only the prefix could bring a slash or a nul into a generated name. -/
theorem mem_of_isGenerated {s : Store} {name : String} (h : s.isGenerated name = true) {c : Char}
    (hc : c ∈ name.toList) : c ∈ s.filePrefix.toList ∨ c ≠ '/' ∧ c ≠ '\x00' := by
  obtain ⟨digits, -, hall, tail, htail, hname⟩ := isGenerated_iff.1 h
  rw [hname, String.toList_append, List.mem_append, List.mem_append, List.mem_append] at hc
  rcases hc with (hc | hc) | hc | hc
  · exact .inl hc
  · have hdash : c = '-' := by simpa using hc
    rw [hdash]
    exact .inr (by decide)
  · exact .inr (ne_of_isDigestDigit (List.all_eq_true.1 hall c hc))
  · rcases htail with rfl | rfl
    · exact .inr (ne_of_mem_fileSuffix hc)
    · rcases List.mem_append.1 hc with hc | hc
      · exact .inr (ne_of_mem_fileSuffix hc)
      · rw [List.mem_singleton.1 hc]
        exact .inr (by decide)

theorem length_of_isGenerated {s : Store} {name : String} (h : s.isGenerated name = true) :
    digestLength ≤ name.toList.length := by
  obtain ⟨digits, hlen, -, tail, -, hname⟩ := isGenerated_iff.1 h
  rw [hname, List.length_append, List.length_append, hlen]
  omega

/-- With a plain prefix all generated names are plain. -/
theorem HasPlainPrefix.isPlainName {s : Store} (hs : s.HasPlainPrefix) {name : String}
    (h : s.isGenerated name = true) : IsPlainName name := by
  -- The name is too long to be one of those that stand for directories.
  have hshort : ∀ cs : List Char, cs.length < digestLength → name.toList ≠ cs := by
    rintro cs hcs rfl
    exact absurd (length_of_isGenerated h) (Nat.not_le_of_lt hcs)
  constructor
  · intro hc
    rcases mem_of_isGenerated h hc with hprefix | hne
    · exact hs.noSlash hprefix
    · exact hne.1 rfl
  · intro hc
    rcases mem_of_isGenerated h hc with hprefix | hne
    · exact hs.noNul hprefix
    · exact hne.2 rfl
  · exact hshort _ (by decide)
  · exact hshort _ (by decide)
  · exact hshort _ (by decide)

theorem resolve_generated {s : Store} (hs : s.HasPlainPrefix) {name : String}
    (h : s.isGenerated name = true) : s.directory.resolve name = .ok (s.pathTo name) := by
  unfold GrammarDirectory.resolve
  rw [Path.resolve?_plain _ (hs.isPlainName h)]
  rfl

/-- The entry of a text is its name and the path that the name leads to. -/
theorem entry_of_resolve {s : Store} {text : String} {path : Path}
    (hp : s.directory.resolve (s.nameOf text) = .ok path) :
    s.entry text = .ok ⟨Digest.ofText text, s.nameOf text, path⟩ := by
  unfold entry
  simp only
  rw [show s.filenameFor (Digest.ofText text) = s.nameOf text from rfl, hp]

theorem entry_of_unresolved {s : Store} {text : String} {f : Failure}
    (hp : s.directory.resolve (s.nameOf text) = .error f) : s.entry text = .error f := by
  unfold entry
  simp only
  rw [show s.filenameFor (Digest.ofText text) = s.nameOf text from rfl, hp]

/-- With a plain prefix every text has an entry, in the directory. -/
theorem entry_eq {s : Store} (hs : s.HasPlainPrefix) (text : String) :
    s.entry text = .ok ⟨Digest.ofText text, s.nameOf text, s.pathTo (s.nameOf text)⟩ :=
  entry_of_resolve (resolve_generated hs (s.isGenerated_nameOf text))

/-! ## §2. Slots. -/

/-- Whether a path is that of a generated name in the directory. -/
def owns (s : Store) (p : Path) : Bool :=
  p.parent = s.directory.root && p.name?.any s.isGenerated

/-- The entries with generated names. -/
def slots (s : Store) (t : FileTree) : List (Path × Entry) := t.entries.filter fun e => s.owns e.1

/-- The generated names in the directory, in order. -/
def generatedNames (s : Store) (t : FileTree) : List String :=
  (t.children s.directory.root).filter s.isGenerated

/-- The generated entries, if there are any, lie in a directory that is there. -/
def IsRooted (s : Store) (t : FileTree) : Prop :=
  s.slots t = [] ∨ t.locate s.directory.root = .ok (some .directory)

theorem owns_iff {s : Store} {p : Path} :
    s.owns p = true ↔ ∃ name, s.isGenerated name = true ∧ p = s.pathTo name := by
  unfold owns pathTo
  simp only [Bool.and_eq_true, decide_eq_true_eq, Option.any_eq_true]
  constructor
  · rintro ⟨hp, name, hn, hg⟩
    refine ⟨name, hg, ?_⟩
    rw [← hp]
    exact Path.eq_child_of_name? hn
  · rintro ⟨name, hg, rfl⟩
    exact ⟨Path.parent_child _ _, name, Path.name?_child _ _, hg⟩

theorem owns_pathTo {s : Store} {name : String} (h : s.isGenerated name = true) :
    s.owns (s.pathTo name) = true :=
  owns_iff.2 ⟨name, h, rfl⟩

theorem owns_of_mem_slots {s : Store} {t : FileTree} {e : Path × Entry} (h : e ∈ s.slots t) :
    s.owns e.1 = true := by
  simpa using (List.mem_filter.1 h).2

/-- The way to the directory passes no slot. -/
theorem owns_of_above {s : Store} {p : Path} (h : p.names <+: s.directory.root.names) :
    s.owns p = false := by
  rw [← Bool.not_eq_true, owns_iff]
  rintro ⟨name, -, rfl⟩
  exact FileTree.child_not_above _ _ h

/-- The listing of the directory shows the names of the slots. -/
theorem generatedNames_perm (s : Store) (t : FileTree) :
    (s.generatedNames t).Perm ((s.slots t).filterMap fun e => e.1.name?) := by
  unfold generatedNames slots FileTree.children
  refine ((List.mergeSort_perm _ _).filter _).trans (.of_eq ?_)
  -- Both sides go through the entries and ask the same of each of them.
  rw [List.filter_filterMap, List.filterMap_filter, List.filterMap_filter]
  refine List.filterMap_congr fun e _ => ?_
  cases hn : e.1.name? with
  | none => simp [owns, hn]
  | some name =>
    have hroot : e.1 ≠ .root := by
      intro hr
      rw [hr] at hn
      cases hn
    by_cases hp : e.1.parent = s.directory.root
    · by_cases hg : s.isGenerated name = true
      · simp [owns, hn, hp, hroot, hg]
      · simp [owns, hn, hp, hroot, hg]
    · simp [owns, hp]

theorem generatedNames_eq_nil {s : Store} {t : FileTree} (h : s.slots t = []) :
    s.generatedNames t = [] := by
  have := s.generatedNames_perm t
  rw [h] at this
  exact this.eq_nil

theorem slots_eq_nil {s : Store} {t : FileTree} (h : s.generatedNames t = []) :
    s.slots t = [] := by
  have hp := s.generatedNames_perm t
  rw [h] at hp
  have hnone := List.filterMap_eq_nil_iff.1 hp.symm.eq_nil
  refine List.eq_nil_iff_forall_not_mem.2 fun e he => ?_
  obtain ⟨name, -, hname⟩ := owns_iff.1 (owns_of_mem_slots he)
  have := hnone e he
  rw [hname] at this
  exact absurd this (by simp [pathTo])

theorem generatedNames_singleton {s : Store} {t : FileTree} {name : String} {e : Entry}
    (h : s.slots t = [(s.pathTo name, e)]) : s.generatedNames t = [name] := by
  have hp := s.generatedNames_perm t
  rw [h] at hp
  refine List.perm_singleton.1 (hp.trans (.of_eq ?_))
  simp [pathTo]

/-- An entry with a generated name is in its slot. -/
theorem mem_slots_of_get? {s : Store} {t : FileTree} {name : String} {e : Entry}
    (hg : s.isGenerated name = true) (h : t.get? (s.pathTo name) = some e) :
    (s.pathTo name, e) ∈ s.slots t :=
  List.mem_filter.2 ⟨FileTree.mem_entries_of_get? (Path.child_ne_root _ _) h, owns_pathTo hg⟩

/-- Where nothing is, there is no slot. -/
theorem slot_ne_of_get? {s : Store} {t : FileTree} {name : String}
    (h : t.get? (s.pathTo name) = none) :
    ∀ e ∈ s.slots t, e.1 ≠ s.pathTo name := by
  intro e he hp
  rw [FileTree.get?, if_neg (by simp [pathTo]), List.lookup_eq_none_iff] at h
  exact absurd (h e (List.mem_filter.1 he).1) (by simp [hp])

theorem get?_of_slots_singleton {s : Store} {t : FileTree} {name : String} {e : Entry}
    (hg : s.isGenerated name = true) (h : s.slots t = [(s.pathTo name, e)]) :
    t.get? (s.pathTo name) = some e := by
  cases hget : t.get? (s.pathTo name) with
  | none => exact absurd rfl (slot_ne_of_get? hget _ (h ▸ List.mem_singleton_self _))
  | some e' =>
    have hmem := mem_slots_of_get? hg hget
    rw [h, List.mem_singleton, Prod.mk.injEq] at hmem
    rw [hmem.2]

/-! ## §3. Operations on slots. -/

variable {s : Store} {t u : FileTree} {name : String}

theorem slots_erase (s : Store) (t : FileTree) (p : Path) :
    s.slots (t.erase p) = (s.slots t).filter fun e => e.1 ≠ p :=
  FileTree.filter_erase _ _ _

theorem slots_insert (t : FileTree) (e : Entry) (h : s.isGenerated name = true) :
    s.slots (t.insert (s.pathTo name) e) =
      (s.pathTo name, e) :: (s.slots t).filter fun e => e.1 ≠ s.pathTo name :=
  FileTree.filter_insert t (owns_pathTo h)

theorem slots_ensureDir (s : Store) (t : FileTree) :
    s.slots (t.ensureDir s.directory.root).1 = s.slots t :=
  FileTree.filter_ensureDir t fun _ _ hq => owns_of_above hq

theorem IsRooted.erase (h : s.IsRooted t) (name : String) :
    s.IsRooted (t.erase (s.pathTo name)) := by
  rcases h with h | h
  · left
    rw [slots_erase, h]
    rfl
  · right
    rw [pathTo, FileTree.locate_erase_of_not (FileTree.child_not_above _ _)]
    exact h

/-- A question about a generated name is answered yes only if its slot holds a file. -/
theorem hasFile_eq_ok (hs : s.HasPlainPrefix) (hg : s.isGenerated name = true)
    (h : s.directory.hasFile t name = .ok true) : ∃ text, (s.pathTo name, .file text) ∈ s.slots t := by
  obtain ⟨text, hget⟩ := GrammarDirectory.file_of_hasFile (resolve_generated hs hg) h
  exact ⟨text, mem_slots_of_get? hg hget⟩

/-- The generated names are all in a listing of the directory. -/
theorem list_eq_ok {names : List String} (hr : s.IsRooted t)
    (h : s.directory.list t = .ok names) : names.filter s.isGenerated = s.generatedNames t := by
  unfold GrammarDirectory.list at h
  split at h
  · cases h
    rfl
  · cases h
  · next r hlook =>
    -- A directory that cannot be listed is not there, so it has no slots.
    have hempty : s.slots t = [] := by
      rcases hr with hr | hr
      · exact hr
      · simp only [FileTree.look, hr] at hlook
        cases hlook
    split at h
    · cases h
      rw [generatedNames_eq_nil hempty]
      rfl
    · cases h

/-- Deleting a generated name takes its slot away, or changes nothing; a slot that is there does
not outlast a deletion that succeeds. -/
theorem delete_slot {r : Except Failure Unit} (hs : s.HasPlainPrefix) (hg : s.isGenerated name = true)
    (h : s.directory.delete t name = (u, r)) :
    (u = t ∨ u = t.erase (s.pathTo name)) ∧
      (r = .ok () → s.IsRooted t → ∀ e ∈ s.slots u, e.1 ≠ s.pathTo name) := by
  have hp := resolve_generated hs hg
  have hcases : u = t ∨ u = t.erase (s.pathTo name) :=
    (GrammarDirectory.delete_cases hp h).imp_right fun hgone => hgone.2.2
  refine ⟨hcases, ?_⟩
  rintro rfl (hr | hr)
  · -- No slot comes of a deletion.
    have hnil : s.slots u = [] := by
      rcases hcases with rfl | rfl
      · exact hr
      · rw [slots_erase, hr]
        rfl
    rw [hnil]
    exact fun _ he => nomatch he
  · exact slot_ne_of_get? (GrammarDirectory.get?_of_delete
      (fun hl => absurd hl (FileTree.locate_child_ne_noEntry hr)) hp h)

/-- A file that is put under a generated name fills its slot, in a directory that is there then;
otherwise all slots are left as they are. -/
theorem place_slot {text : String} {r : Except SystemFault Unit} (hg : s.isGenerated name = true)
    (h : t.place (s.pathTo name) text = (u, r)) :
    (r = .ok () ∧
      s.slots u = (s.pathTo name, .file text) :: (s.slots t).filter (fun e => e.1 ≠ s.pathTo name) ∧
        u.locate s.directory.root = .ok (some .directory)) ∨
      (∃ f, r = .error f) ∧ s.slots u = s.slots t ∧ (s.IsRooted t → s.IsRooted u) := by
  have hslots := slots_ensureDir s t
  have hroot : s.IsRooted t → s.IsRooted (t.ensureDir s.directory.root).1 := by
    rintro (hr | hr)
    · exact .inl (hslots.trans hr)
    · rw [FileTree.ensureDir_of_there hr]
      exact .inr hr
  simp only [FileTree.place, pathTo, Path.parent_child] at h
  generalize hens : t.ensureDir s.directory.root = made at h hslots hroot
  obtain ⟨t', made⟩ := made
  -- Making the directory touches no slot, whether it succeeds or not.
  cases made with
  | error f =>
    cases h
    exact .inr ⟨⟨_, rfl⟩, hslots, hroot⟩
  | ok =>
    simp only [FileTree.write] at h
    cases hl : t'.locate (s.directory.root.child name) with
    | error r =>
      rw [hl] at h
      cases h
      exact .inr ⟨⟨_, rfl⟩, hslots, hroot⟩
    | ok e =>
      rw [hl] at h
      -- The file can be put there only if the directory is there by now.
      have hthere : (t'.insert (s.pathTo name) (.file text)).locate s.directory.root =
          .ok (some .directory) := by
        rw [pathTo, FileTree.locate_insert_of_not _ (FileTree.child_not_above _ _)]
        exact (FileTree.locate_child_eq_ok hl).1
      have hfill := slots_insert t' (.file text) hg
      rw [hslots] at hfill
      rcases e with _ | ⟨_⟩ | _
      · cases h
        exact .inl ⟨rfl, hfill, hthere⟩
      · cases h
        exact .inl ⟨rfl, hfill, hthere⟩
      · cases h
        exact .inr ⟨⟨_, rfl⟩, hslots, hroot⟩

/-- Writing a generated name fills its slot, in a directory that is there then, or leaves all slots
as they are. -/
theorem write_slot {text : String} {r : Except Failure Unit} (hs : s.HasPlainPrefix)
    (hg : s.isGenerated name = true) (h : s.directory.write t name text = (u, r)) :
    (r = .ok () ∧
      s.slots u = (s.pathTo name, .file text) :: (s.slots t).filter (fun e => e.1 ≠ s.pathTo name) ∧
        u.locate s.directory.root = .ok (some .directory)) ∨
      (∃ f, r = .error f) ∧ s.slots u = s.slots t ∧ (s.IsRooted t → s.IsRooted u) := by
  rcases GrammarDirectory.place_of_write (resolve_generated hs hg) h with
    ⟨hplace, hr⟩ | ⟨f, hplace, hr⟩
  · rcases place_slot hg hplace with ⟨-, hfill⟩ | ⟨⟨f, hbad⟩, -⟩
    · exact .inl ⟨hr, hfill⟩
    · cases hbad
  · rcases place_slot hg hplace with ⟨hbad, -⟩ | ⟨-, hkept⟩
    · cases hbad
    · exact .inr ⟨⟨_, hr⟩, hkept⟩

end Store

end QuasiGrammar
