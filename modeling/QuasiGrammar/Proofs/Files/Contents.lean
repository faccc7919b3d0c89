import QuasiGrammar.Files.Operation
import QuasiGrammar.Proofs.Files.Access
import QuasiGrammar.Proofs.Files.Listing
import QuasiGrammar.Proofs.Files.Way

/-
  QuasiGrammar.Proofs.Files.Contents
  ──────────────────────────────────
  **A directory of grammars is a finite map from names to texts.**

  It need not be there at first.  After any operations with names of entries,
  each name holds what was written to it last, unless it has been deleted since
  (`held_eq_some_iff`), the directory is listed in order, and nothing is refused
  (`answers_as_map`), but for two things: the path of a name can be too long as
  a whole although the name is short and the directory can be made
  (`not_always_written`), and a text that cannot be encoded leaves an empty file.

      Shows        the tree shows the contents: what relates the two
      shows_apply  one operation
      shows_after  any operations
-/

namespace QuasiGrammar.GrammarDirectory

open Text FileTree

variable {d : GrammarDirectory} {room : Option Nat} {t u : FileTree} {name : String}
  {contents : Contents}

/-! ## §1. What names hold. -/

/-- A text was written to a name, and since then the name has neither been written nor deleted. -/
def LastWritten (operations : List Operation) (name : String) (text : LooseText) : Prop :=
  ∃ before after, operations = before ++ .write name text :: after ∧
    (∀ other, .write name other ∉ after) ∧ .delete name ∉ after

theorem lastWritten_concat {operations : List Operation} {o : Operation} {text : LooseText} :
    LastWritten (operations ++ [o]) name text ↔
      o = .write name text ∨
        LastWritten operations name text ∧ (∀ other, o ≠ .write name other) ∧
          o ≠ .delete name := by
  constructor
  · intro ⟨before, after, hsplit, hwrite, hdelete⟩
    rcases List.eq_nil_or_concat after with hnil | ⟨after', last, hconcat⟩
    · subst hnil
      obtain ⟨-, hlast⟩ := List.append_inj' hsplit rfl
      exact .inl (List.cons.inj hlast).1
    · subst hconcat
      rw [List.concat_eq_append] at hsplit hwrite hdelete
      rw [← List.cons_append, ← List.append_assoc] at hsplit
      obtain ⟨hinit, hlast⟩ := List.append_inj' hsplit rfl
      have ho : o = last := (List.cons.inj hlast).1
      subst ho
      refine .inr ⟨⟨before, after', hinit, ?_, ?_⟩, ?_, ?_⟩
      · exact fun other hmem => hwrite other (List.mem_append_left _ hmem)
      · exact fun hmem => hdelete (List.mem_append_left _ hmem)
      · exact fun other hsame => hwrite other (by simp [hsame])
      · exact fun hsame => hdelete (by simp [hsame])
  · intro h
    rcases h with hwrite | ⟨⟨before, after, hsplit, hwrite, hdelete⟩, howrite, hodelete⟩
    · subst hwrite
      exact ⟨operations, [], rfl, fun other => List.not_mem_nil, List.not_mem_nil⟩
    · refine ⟨before, after ++ [o], by rw [hsplit, List.append_assoc, List.cons_append], ?_, ?_⟩
      · intro other hmem
        rcases List.mem_append.1 hmem with hold | hnew
        · exact hwrite other hold
        · exact howrite other (List.mem_singleton.1 hnew).symm
      · intro hmem
        rcases List.mem_append.1 hmem with hold | hnew
        · exact hdelete hold
        · exact hodelete (List.mem_singleton.1 hnew).symm

theorem held_concat (d : GrammarDirectory) (operations : List Operation) (o : Operation) :
    d.held (operations ++ [o]) = d.keep (d.held operations) o := by
  unfold held
  rw [List.foldl_append]
  rfl

/-- **A name holds what is left of the text that was written to it last, if it has not been deleted
since.** -/
theorem held_eq_some_iff {operations : List Operation} {content : String} :
    d.held operations name = some content ↔
      d.HasRoom name ∧ ∃ text, LastWritten operations name text ∧ text.written = content := by
  induction operations using List.reverseRecOn with
  | nil =>
    constructor
    · intro h
      cases h
    · rintro ⟨_, _, ⟨before, after, hnone, _⟩, _⟩
      simp at hnone
  | append_singleton operations o ih =>
    rw [held_concat]
    simp only [lastWritten_concat]
    cases o with
    | hasFile other => simpa [keep] using ih
    | list => simpa [keep] using ih
    | write other new =>
      by_cases hsame : name = other
      · subst hsame
        by_cases hroom : d.HasRoom name
        · simp [keep, hroom]
        · simpa [keep, hroom] using ih
      · have hother : other ≠ name := Ne.symm hsame
        simpa [keep, hsame, hother] using ih
    | delete other =>
      by_cases hsame : name = other
      · subst hsame
        by_cases hroom : d.HasRoom name
        · simp [keep, hroom]
        · simpa [keep, hroom] using ih
      · have hother : other ≠ name := Ne.symm hsame
        simpa [keep, hsame, hother] using ih

/-! ## §2. Trees that show contents. -/

/-- A name of an entry, not too long for one. -/
structure IsEntryName (name : String) : Prop where
  plain : IsPlainName name
  short : utf8Length name ≤ maxNameLength

theorem resolve_entry (d : GrammarDirectory) (h : IsEntryName name) :
    d.resolve name = .ok (d.root.child name) := by
  unfold resolve
  rw [Path.resolve?_plain _ h.plain]

theorem IsEntryName.fits (h : IsEntryName name) (hroom : d.HasRoom name) : d.Fits name :=
  ⟨resolve_entry d h, h.short, hroom⟩

/-- A name without room is not looked for. -/
theorem locate_of_no_room (t : FileTree) (hroom : ¬ d.HasRoom name) :
    t.locate (d.root.child name) = .error .nameTooLong := by
  unfold HasRoom at hroom
  rw [locate_child_eq, if_pos (by omega)]

/-- The tree shows the contents: each name leads to a file with its text, or to nothing.  The
directory is there, or it can be made, and there is room for the calls that this takes. -/
structure Shows (d : GrammarDirectory) (room : Option Nat) (t : FileTree) (contents : Contents) :
    Prop where
  grounded : t.IsGrounded
  way : t.OpenTo d.root
  hasRoom : t.exhausts room d.root = false
  noTwins : t.NoTwins d.root
  holds : ∀ name, t.get? (d.root.child name) = (contents name).map .file

/-- As long as the directory is not there nothing is in it. -/
theorem shows_absent (hg : t.IsGrounded) (hmake : (t.ensureDir d.root).2 = .ok ())
    (hcalls : t.exhausts room d.root = false) (hnone : t.get? d.root = none) :
    d.Shows room t fun _ => none := by
  refine ⟨hg, ensureDir_eq_ok_iff.1 hmake, hcalls, ?_, ?_⟩
  · have hempty : t.within d.root = [] := by
      refine List.eq_nil_iff_forall_not_mem.2 fun e he => ?_
      obtain ⟨hmem, name, hp⟩ := mem_within.1 he
      have hdir := hg e hmem
      rw [hp, Path.parent_child, hnone] at hdir
      cases hdir
    unfold NoTwins
    rw [hempty]
    exact List.nodup_nil
  · intro name
    cases hget : t.get? (d.root.child name) with
    | none => rfl
    | some e =>
      have hdir := hg.parent hget
      rw [Path.parent_child, hnone] at hdir
      cases hdir

theorem Shows.ne_directory (h : d.Shows room t contents) (name : String) :
    t.get? (d.root.child name) ≠ some .directory := by
  rw [h.holds]
  cases contents name <;> simp

/-- Making the directory touches no name. -/
theorem get?_ensureDir (d : GrammarDirectory) (t : FileTree) (name : String) :
    (t.ensureDir d.root).1.get? (d.root.child name) = t.get? (d.root.child name) := by
  have hway := makesWay_ensureDir t (d.root.child name).parent
  have hsame := hway.get?_eq (Path.child_ne_root d.root name)
  rwa [Path.parent_child] at hsame

theorem Shows.ensureDir (h : d.Shows room t contents) :
    d.Shows room (t.ensureDir d.root).1 contents := by
  have hthere := locate_of_ensureDir (ensureDir_of_openTo h.way).1
  refine ⟨h.grounded.ensureDir _, h.way.ensureDir _, exhausts_of_there room hthere,
    h.noTwins.ensureDir, ?_⟩
  intro name
  rw [get?_ensureDir]
  exact h.holds name

/-! ## §3. Operations. -/

/-- A name with room is opened, and holds as much of the text as can be encoded. -/
theorem write_entry (h : d.Shows room t contents) (hname : IsEntryName name)
    (hroom : d.HasRoom name) (text : LooseText) :
    d.writeWithin room t name text =
      ((t.ensureDir d.root).1.insert (d.root.child name) (.file text.written), encode text) := by
  refine writeWithin_placed (resolve_entry d hname) ?_
    (place_of_open h.way (hname.fits hroom) (h.ensureDir.ne_directory name) text.written)
  rw [Path.parent_child]
  exact h.hasRoom

/-- A name without room is refused after the directory has been made. -/
theorem write_no_room (h : d.Shows room t contents) (hname : IsEntryName name)
    (hroom : ¬ d.HasRoom name) (text : LooseText) :
    (d.writeWithin room t name text).1 = (t.ensureDir d.root).1 ∧
      ∃ f, (d.writeWithin room t name text).2 = .error f := by
  obtain ⟨hok, -⟩ := ensureDir_of_openTo h.way
  have hcalls : t.exhausts room (d.root.child name).parent = false := by
    rw [Path.parent_child]
    exact h.hasRoom
  have hplace : t.place (d.root.child name) text.written =
      ((t.ensureDir d.root).1, .error ⟨.nameTooLong, d.root.child name⟩) := by
    simp only [place, Path.parent_child]
    generalize t.ensureDir d.root = made at hok ⊢
    obtain ⟨u, result⟩ := made
    cases hok
    have hrefused : u.write (d.root.child name) text.written = .error .nameTooLong := by
      unfold FileTree.write
      rw [locate_of_no_room u hroom]
    simp only [hrefused]
  rw [writeWithin_refused (resolve_entry d hname) hcalls hplace]
  exact ⟨rfl, _, rfl⟩

theorem delete_no_room (t : FileTree) (hname : IsEntryName name) (hroom : ¬ d.HasRoom name) :
    (d.delete t name).1 = t ∧ ∃ f, (d.delete t name).2 = .error f := by
  have hrefused : t.remove (d.root.child name) = .error .nameTooLong := by
    unfold FileTree.remove
    rw [locate_of_no_room t hroom]
  unfold GrammarDirectory.delete
  rw [resolve_entry d hname]
  simp only [hrefused]
  exact ⟨trivial, _, rfl⟩

theorem hasFile_no_room (t : FileTree) (hname : IsEntryName name) (hroom : ¬ d.HasRoom name) :
    ∃ f, d.hasFile t name = .error f := by
  unfold hasFile
  rw [resolve_entry d hname]
  simp only [look, locate_of_no_room t hroom]
  exact ⟨_, rfl⟩

theorem shows_write (h : d.Shows room t contents) (hname : IsEntryName name) (text : LooseText) :
    d.Shows room (d.apply room t (.write name text)) (d.keep contents (.write name text)) := by
  show d.Shows room (d.writeWithin room t name text).1 _
  by_cases hroom : d.HasRoom name
  · have hmade := h.ensureDir
    refine ⟨d.isGrounded_writeWithin room h.grounded name text, ?_, ?_, ?_, ?_⟩
    · rw [write_entry h hname hroom]
      exact hmade.way.insert_child _
    · rw [write_entry h hname hroom]
      exact (exhausts_of_child_change room fun _ hne => get?_insert_of_ne _ hne _).trans
        hmade.hasRoom
    · rw [write_entry h hname hroom]
      exact hmade.noTwins.insert_child name _
    · intro other
      rw [write_entry h hname hroom]
      by_cases hsame : other = name
      · subst hsame
        rw [get?_insert_self _ (Path.child_ne_root d.root other)]
        simp [keep, hroom]
      · have hne : d.root.child other ≠ d.root.child name := by simpa using hsame
        rw [get?_insert_of_ne _ hne, hmade.holds]
        simp [keep, hsame]
  · have hkeep : d.keep contents (.write name text) = contents := by
      simp [keep, hroom]
    rw [hkeep, (write_no_room h hname hroom text).1]
    exact h.ensureDir

theorem shows_delete (h : d.Shows room t contents) (hname : IsEntryName name) :
    d.Shows room (d.apply room t (.delete name)) (d.keep contents (.delete name)) := by
  show d.Shows room (d.delete t name).1 _
  by_cases hroom : d.HasRoom name
  · obtain ⟨hok, hway⟩ := delete_of_open h.way (hname.fits hroom) (h.ne_directory name)
    have hgrounded := d.isGrounded_delete h.grounded name
    generalize hdel : d.delete t name = result at hok hway hgrounded ⊢
    obtain ⟨u, r⟩ := result
    cases hok
    have hgone := get?_of_delete h.grounded.get?_of_noEntry (resolve_entry d hname) hdel
    -- What is left is the tree, or the tree without the entry of the name.
    have hrest : u.NoTwins d.root ∧
        ∀ q, q ≠ d.root.child name → u.get? q = t.get? q := by
      rcases delete_cases (resolve_entry d hname) hdel with hsame | ⟨-, -, herase⟩
      · rw [hsame]
        exact ⟨h.noTwins, fun q _ => rfl⟩
      · rw [herase]
        exact ⟨h.noTwins.erase _, fun q hq => get?_erase_of_ne t hq⟩
    refine ⟨hgrounded, hway, (exhausts_of_child_change room hrest.2).trans h.hasRoom, hrest.1, ?_⟩
    intro other
    show u.get? _ = _
    by_cases hsame : other = name
    · subst hsame
      rw [hgone]
      simp [keep, hroom]
    · have hne : d.root.child other ≠ d.root.child name := by simpa using hsame
      rw [hrest.2 _ hne, h.holds]
      simp [keep, hsame]
  · have hkeep : d.keep contents (.delete name) = contents := by
      simp [keep, hroom]
    rw [hkeep, (delete_no_room t hname hroom).1]
    exact h

/-- **After an operation the tree shows what names should hold then.** -/
theorem shows_apply (h : d.Shows room t contents) (o : Operation)
    (ho : ∀ name, o.name? = some name → IsEntryName name) :
    d.Shows room (d.apply room t o) (d.keep contents o) := by
  cases o with
  | hasFile name => exact h
  | list => exact h
  | write name text => exact shows_write h (ho name rfl) text
  | delete name => exact shows_delete h (ho name rfl)

/-- Only names of entries are used. -/
def UsesEntryNames (operations : List Operation) : Prop :=
  ∀ o ∈ operations, ∀ name, o.name? = some name → IsEntryName name

theorem shows_after {operations : List Operation} (h : d.Shows room t fun _ => none)
    (hnames : UsesEntryNames operations) :
    d.Shows room (d.after room t operations) (d.held operations) := by
  induction operations using List.reverseRecOn with
  | nil => exact h
  | append_singleton operations o ih =>
    have hbefore := ih fun o' ho' => hnames o' (List.mem_append_left _ ho')
    have hafter : d.after room t (operations ++ [o]) =
        d.apply room (d.after room t operations) o := by
      unfold after
      rw [List.foldl_append]
      rfl
    rw [hafter, held_concat]
    exact shows_apply hbefore o (hnames o (by simp))

/-! ## §4. Answers. -/

theorem Shows.hasFile (h : d.Shows room t contents) (hname : IsEntryName name)
    (hroom : d.HasRoom name) : d.hasFile t name = .ok (contents name).isSome := by
  obtain ⟨b, hb⟩ := hasFile_of_open h.way (hname.fits hroom)
  have hholds := h.holds name
  rw [hb]
  cases b with
  | true =>
    obtain ⟨text, hfile⟩ := file_of_hasFile (resolve_entry d hname) hb
    rw [hfile] at hholds
    cases hc : contents name with
    | none =>
      rw [hc] at hholds
      cases hholds
    | some held => rfl
  | false =>
    cases hc : contents name with
    | none => rfl
    | some held =>
      rw [hc] at hholds
      exact absurd hholds (no_file_of_hasFile h.grounded (resolve_entry d hname) hb held)

/-- The names that hold something are listed in order. -/
theorem Shows.list (h : d.Shows room t contents) :
    ∃ names, d.list t = .ok names ∧ names.Pairwise (· < ·) ∧
      ∀ name, name ∈ names ↔ (contents name).isSome = true := by
  have hsome : ∀ name, t.get? (d.root.child name) ≠ none ↔ (contents name).isSome = true := by
    intro name
    rw [h.holds]
    cases contents name <;> simp
  have hmissing : t.get? d.root = none →
      ∀ name, name ∈ ([] : List String) ↔ (contents name).isSome = true := by
    intro hnone name
    rw [← hsome]
    constructor
    · intro hmem
      cases hmem
    · intro hne
      obtain ⟨e, he⟩ := Option.ne_none_iff_exists'.1 hne
      have hdir := h.grounded.parent he
      rw [Path.parent_child, hnone] at hdir
      cases hdir
  unfold GrammarDirectory.list
  simp only [look]
  -- The directory is there, or nothing is in it.
  rcases locate_of_openTo h.way with hdir | hmiss | hmiss
  · rw [hdir]
    refine ⟨t.children d.root, rfl, h.noTwins.children_strictSorted, ?_⟩
    intro name
    rw [mem_children_iff]
    exact hsome name
  · rw [hmiss]
    exact ⟨[], rfl, List.Pairwise.nil, hmissing (locate_eq_ok hmiss).symm⟩
  · rw [hmiss]
    exact ⟨[], rfl, List.Pairwise.nil, hmissing (h.grounded.get?_of_noEntry hmiss)⟩

/-- **A directory of grammars is a finite map.**  It is not there yet, but can be made, with room for
the calls that this takes; then it is used with names of entries.

1. A name holds the text that was written to it last, unless it has been deleted since; a name
   without room holds nothing, and of a text that cannot be encoded nothing is left.
2. Each name leads to a file with the text that it holds, or to nothing.
3. The names that hold something are listed in strictly rising order.
4. Nothing is refused of a name with room, and whether it leads to a file is answered by what it
   holds; only a text that cannot be encoded fails for that.
5. A name without room is refused, and changes nothing for the others. -/
theorem answers_as_map (d : GrammarDirectory) (room : Option Nat) {t : FileTree}
    (hg : t.IsGrounded) (hmake : (t.ensureDir d.root).2 = .ok ())
    (hcalls : t.exhausts room d.root = false) (hnone : t.get? d.root = none)
    {operations : List Operation} (hnames : UsesEntryNames operations) :
    (∀ name content, d.held operations name = some content ↔
        d.HasRoom name ∧ ∃ text, LastWritten operations name text ∧ text.written = content) ∧
      (∀ name, (d.after room t operations).get? (d.root.child name) =
        (d.held operations name).map .file) ∧
      (∃ names, d.list (d.after room t operations) = .ok names ∧ names.Pairwise (· < ·) ∧
        ∀ name, name ∈ names ↔ (d.held operations name).isSome = true) ∧
      (∀ name, IsEntryName name → d.HasRoom name →
        d.hasFile (d.after room t operations) name = .ok (d.held operations name).isSome ∧
          (∀ s, (d.writeWithin room (d.after room t operations) name (.of s)).2 = .ok ()) ∧
          (∀ text fault, text.fault? = some fault →
            (d.writeWithin room (d.after room t operations) name text).2 =
              .error (.defect (.noUtf8Form fault))) ∧
          (d.delete (d.after room t operations) name).2 = .ok ()) ∧
      (∀ name, IsEntryName name → ¬ d.HasRoom name →
        (∃ f, d.hasFile (d.after room t operations) name = .error f) ∧
          (∀ text, ∃ f, (d.writeWithin room (d.after room t operations) name text).2 = .error f) ∧
          ∃ f, (d.delete (d.after room t operations) name).2 = .error f) := by
  have hshows : d.Shows room (d.after room t operations) (d.held operations) :=
    shows_after (shows_absent hg hmake hcalls hnone) hnames
  refine ⟨fun name content => held_eq_some_iff, hshows.holds, hshows.list, ?_, ?_⟩
  · intro name hname hroom
    refine ⟨hshows.hasFile hname hroom, ?_, ?_, ?_⟩
    · intro s
      rw [write_entry hshows hname hroom]
      exact encode_of s
    · intro text fault hfault
      rw [write_entry hshows hname hroom]
      exact encode_of_fault hfault
    · exact (delete_of_open hshows.way (hname.fits hroom) (hshows.ne_directory name)).1
  · intro name hname hroom
    exact ⟨hasFile_no_room _ hname hroom,
      fun text => (write_no_room hshows hname hroom text).2,
      (delete_no_room _ hname hroom).2⟩

/-- A directory that is not there yet, beside nothing. -/
def grammars : GrammarDirectory := ⟨⟨["T", "grammars"]⟩⟩

/-- A tree with one directory. -/
def bare : FileTree := ⟨[(⟨["T"]⟩, .directory)]⟩

/-- A file that is written over, one that is deleted, and one that was to hold half of a surrogate
pair. -/
def drafts : List Operation :=
  [.write "a" (.of "1"), .write "b" (.of "2"), .list, .write "a" (.of "3"), .delete "b",
    .write "c" [.half 0], .hasFile "b"]

theorem isGrounded_bare : bare.IsGrounded := by
  unfold FileTree.IsGrounded
  decide

theorem isEntryName_letter {c : Char} (h : c = 'a' ∨ c = 'b' ∨ c = 'c') :
    IsEntryName (String.singleton c) := by
  rcases h with h | h | h
  all_goals
    subst h
    exact ⟨⟨by decide, by decide, by decide, by decide, by decide⟩, by decide⟩

theorem answers_after_drafts :
    grammars.hasFile (grammars.after (some 0) bare drafts) "a" = .ok true ∧
      (grammars.after (some 0) bare drafts).get? ⟨["T", "grammars", "a"]⟩ = some (.file "3") ∧
        grammars.hasFile (grammars.after (some 0) bare drafts) "b" = .ok false ∧
          (grammars.after (some 0) bare drafts).get? ⟨["T", "grammars", "c"]⟩ = some (.file "") := by
  have ha : IsEntryName "a" := isEntryName_letter (.inl rfl)
  have hb : IsEntryName "b" := isEntryName_letter (.inr (.inl rfl))
  have hc : IsEntryName "c" := isEntryName_letter (.inr (.inr rfl))
  have hnames : UsesEntryNames drafts := by
    intro o ho name hname
    simp only [drafts, List.mem_cons, List.not_mem_nil, or_false] at ho
    rcases ho with h | h | h | h | h | h | h <;> subst h <;> cases hname <;> assumption
  obtain ⟨-, hget, -, hanswers, -⟩ :=
    answers_as_map grammars (some 0) isGrounded_bare (by decide) (by decide) (by decide) hnames
  exact ⟨(hanswers "a" ha (by decide)).1, hget "a", (hanswers "b" hb (by decide)).1, hget "c"⟩

/-- A name of one letter over and over. -/
def repeated (n : Nat) (c : Char) : String := String.ofList (List.replicate n c)

theorem utf8Length_repeated {n : Nat} {c : Char} (hc : c.utf8Size = 1) :
    utf8Length (repeated n c) = n := by
  have hascii : ∀ c' ∈ List.replicate n c, c'.utf8Size = 1 := by
    intro c' hc'
    rw [List.eq_of_mem_replicate hc']
    exact hc
  unfold repeated utf8Length
  rw [utf8ByteSize_ofList_of_ascii hascii, List.length_replicate]

theorem eq_of_mem_repeated {n : Nat} {c c' : Char} (h : c' ∈ (repeated n c).toList) : c' = c := by
  unfold repeated at h
  rw [String.toList_ofList] at h
  exact List.eq_of_mem_replicate h

/-- A letter that means nothing in a path makes a name, however often it stands there. -/
theorem isPlainName_repeated {n : Nat} {c : Char} (hn : n ≠ 0) (hslash : c ≠ '/')
    (hnul : c ≠ '\x00') (hdot : c ≠ '.') : IsPlainName (repeated n c) := by
  refine ⟨?_, ?_, ?_, ?_, ?_⟩
  · exact fun hmem => hslash (eq_of_mem_repeated hmem).symm
  · exact fun hmem => hnul (eq_of_mem_repeated hmem).symm
  · unfold repeated
    rw [String.toList_ofList]
    simpa using hn
  · exact fun hdots => hdot (eq_of_mem_repeated (n := n) (hdots ▸ List.mem_cons_self)).symm
  · exact fun hdots => hdot (eq_of_mem_repeated (n := n) (hdots ▸ List.mem_cons_self)).symm

/-- A directory with a long way to it. -/
def remote : GrammarDirectory :=
  ⟨⟨"T" :: repeated 60 'd' :: List.replicate 15 (repeated 255 'd')⟩⟩

/-- The longest name of an entry. -/
def longest : String := repeated 255 'n'

theorem short_remote : ∀ name ∈ remote.root.names, utf8Length name ≤ maxNameLength := by
  intro name hname
  rcases List.mem_cons.1 hname with hfirst | hrest
  · rw [hfirst]
    decide
  · rcases List.mem_cons.1 hrest with hshort | hlong
    · rw [hshort, utf8Length_repeated (by decide)]
      decide
    · rw [List.eq_of_mem_replicate hlong, utf8Length_repeated (by decide)]
      decide

theorem length_remote : utf8Length remote.root.text = 3903 := by
  have hlong : utf8Length (repeated 255 'd') = 255 := utf8Length_repeated (by decide)
  have hshort : utf8Length (repeated 60 'd') = 60 := utf8Length_repeated (by decide)
  rw [Path.utf8Length_text (by simp [remote])]
  have hone : utf8Length "T" = 1 := by decide
  simp [remote, List.replicate, hlong, hshort, hone]

theorem isEntryName_longest : IsEntryName longest := by
  refine ⟨isPlainName_repeated (by decide) (by decide) (by decide) (by decide), ?_⟩
  show utf8Length (repeated 255 'n') ≤ maxNameLength
  rw [utf8Length_repeated (by decide)]
  decide

/-- The directory can be made, but its path leaves no room for the name. -/
theorem not_always_written :
    ¬ ∀ (d : GrammarDirectory) (t : FileTree) (name text : String), t.IsGrounded →
      (t.ensureDir d.root).2 = .ok () → t.get? d.root = none → IsEntryName name →
        (d.write t name text).2 = .ok () := by
  intro hclaim
  have hway : bare.OpenTo remote.root :=
    openTo_of_directories _ (by decide) short_remote (by rw [length_remote]; decide)
  have hroom : ¬ remote.HasRoom longest := by
    unfold HasRoom
    -- The name and the slash before it are too much.
    have hchild : (remote.root.child longest).names = remote.root.names ++ [longest] := rfl
    have hlong : utf8Length longest = 255 := utf8Length_repeated (by decide)
    rw [Path.utf8Length_text (by simp [hchild]), hchild, total_append,
      ← Path.utf8Length_text (by simp [remote]), length_remote, total_cons, hlong]
    decide
  have hmake : (bare.ensureDir remote.root).2 = .ok () := ensureDir_eq_ok_iff.2 hway
  have hnone : bare.get? remote.root = none := by decide
  have hwritten := hclaim remote bare longest "" isGrounded_bare hmake hnone isEntryName_longest
  have hshows : remote.Shows none bare fun _ => none :=
    shows_absent isGrounded_bare hmake rfl hnone
  obtain ⟨-, f, hrefused⟩ := write_no_room hshows isEntryName_longest hroom (.of "")
  cases hwritten.symm.trans hrefused

end QuasiGrammar.GrammarDirectory
