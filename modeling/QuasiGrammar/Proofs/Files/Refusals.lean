import QuasiGrammar.Proofs.Files.Contents
import QuasiGrammar.Proofs.Files.Effects

/-
  QuasiGrammar.Proofs.Files.Refusals
  ──────────────────────────────────
  **What becomes of a refusal of the file system.**

  A file that cannot be written or deleted is a problem of the directory, which
  names the file.  A question and a listing come to a problem as well, or to an
  answer, with one exception: if the way is too long, the refusal of the system
  comes out as it is.  So does what is no refusal of the system: that a text
  cannot be encoded, and that the stack has no room for the calls which make the
  way.

      locate_eq_nameTooLong_iff   just when the way to a path is too long
      refusal_cases               the refusals of a walk
      reports_write_iff           just when all failures of a write are reported
      refusals_reported_iff       which operations report all refusals, and when
-/

namespace QuasiGrammar

open Text

/-! ## §1. Ways that are too long. -/

namespace FileTree

variable {t : FileTree} {p : Path} {name : String}

/-- All along the way to a path there are directories, and there is one at its end. -/
def AllDirectories (t : FileTree) (p : Path) : Prop :=
  ∀ q : Path, q.names <+: p.names → t.get? q = some .directory

/-- The path is too long as a whole, or a name on the way is, and it is looked for because there
are directories up to it. -/
def IsOverlong (t : FileTree) (p : Path) : Prop :=
  maxPathLength < utf8Length p.text ∨
    ∃ dir name, (dir.child name).names <+: p.names ∧ t.AllDirectories dir ∧
      maxNameLength < utf8Length name

/-- Where there are directories all along, only the length of a name can keep the last of them from
being located. -/
theorem AllDirectories.locate (h : t.AllDirectories p) :
    t.locate p = .ok (some .directory) ∨ t.locate p = .error .nameTooLong := by
  obtain ⟨names⟩ := p
  induction names using List.reverseRecOn with
  | nil => exact .inl rfl
  | append_singleton names name ih =>
    have hc : (⟨names ++ [name]⟩ : Path) = (⟨names⟩ : Path).child name := rfl
    have habove : t.AllDirectories ⟨names⟩ := by
      intro q hq
      exact h q (hq.trans (List.prefix_append names [name]))
    have hself : t.get? ((⟨names⟩ : Path).child name) = some .directory := h _ (List.prefix_refl _)
    rw [hc]
    rcases ih habove with hdir | hlong
    · rcases locate_child_cases name hdir with hl | hl
      · exact .inl (hl.trans (congrArg _ hself))
      · exact .inr hl
    · -- It is not even located what the directory lies in.
      right
      rw [locate_child_eq, hlong]
      exact ite_self _

/-- A way that is short enough as a whole is too long if the way to the directory is, or if a name
that is too long is looked for at its end. -/
theorem isOverlong_child_iff (hshort : ¬ maxPathLength < utf8Length (p.child name).text) :
    t.IsOverlong (p.child name) ↔
      t.IsOverlong p ∨ t.AllDirectories p ∧ maxNameLength < utf8Length name := by
  have hle := p.utf8Length_text_le_child name
  constructor
  · intro h
    rcases h with hpath | ⟨dir, n, hn, hdirs, hlong⟩
    · exact absurd hpath hshort
    · rcases List.prefix_concat_iff.1 hn with hsame | habove
      · -- The name is the last one.
        obtain ⟨hnames, hname⟩ := List.append_inj' hsame rfl
        have hdir : dir = p := Path.ext hnames
        have hlast : n = name := List.singleton_inj.1 hname
        rw [hdir] at hdirs
        rw [hlast] at hlong
        exact .inr ⟨hdirs, hlong⟩
      · exact .inl (.inr ⟨dir, n, habove, hdirs, hlong⟩)
  · intro h
    rcases h with (hpath | ⟨dir, n, hn, hdirs, hlong⟩) | ⟨hdirs, hlong⟩
    · omega
    · exact .inr ⟨dir, n, hn.trans (List.prefix_append _ _), hdirs, hlong⟩
    · exact .inr ⟨p, name, List.prefix_refl _, hdirs, hlong⟩

theorem not_isOverlong_root (t : FileTree) : ¬ t.IsOverlong .root := by
  intro h
  rcases h with hpath | ⟨dir, name, hn, -, -⟩
  · exact absurd hpath (by decide)
  · exact absurd (List.prefix_nil.1 hn) (by simp [Path.child])

/-- What is located is a directory just if there are directories all along. -/
theorem allDirectories_iff_of_locate {e : Option Entry} (hl : t.locate p = .ok e) :
    t.AllDirectories p ↔ e = some .directory := by
  constructor
  · intro h
    rw [locate_eq_ok hl]
    exact h p (List.prefix_refl _)
  · intro he
    rw [he] at hl
    exact directories_of_locate hl

/-- **A path is refused for its length just if the way to it is too long.** -/
theorem locate_eq_nameTooLong_iff : t.locate p = .error .nameTooLong ↔ t.IsOverlong p := by
  obtain ⟨names⟩ := p
  -- One name after the other is looked for, each of them in what the names before it lead to.
  induction names using List.reverseRecOn with
  | nil =>
    have hroot : t.locate ⟨[]⟩ = .ok (some .directory) := rfl
    rw [hroot]
    exact iff_of_false (fun h => nomatch h) (not_isOverlong_root t)
  | append_singleton names name ih =>
    have hc : (⟨names ++ [name]⟩ : Path) = (⟨names⟩ : Path).child name := rfl
    rw [hc]
    generalize (⟨names⟩ : Path) = p at ih ⊢
    by_cases hpath : maxPathLength < utf8Length (p.child name).text
    · rw [locate_child_eq, if_pos hpath]
      exact iff_of_true rfl (.inl hpath)
    · rw [locate_child_eq, if_neg hpath, isOverlong_child_iff hpath, ← ih]
      cases hl : t.locate p with
      | error r =>
        -- The last name is not looked for.
        have hdirs : t.AllDirectories p → r = .nameTooLong := by
          intro h
          rcases h.locate with hl' | hl'
          · rw [hl] at hl'
            cases hl'
          · rw [hl] at hl'
            exact Except.error.inj hl'
        simp only [Except.error.injEq]
        constructor
        · intro h
          exact .inl h
        · intro h
          rcases h with h | ⟨h, -⟩
          · exact h
          · exact hdirs h
      | ok e =>
        rw [allDirectories_iff_of_locate hl]
        rcases e with _ | ⟨_⟩ | _
        · simp
        · simp
        · by_cases hname : maxNameLength < utf8Length name
          · simp [hname]
          · simp [hname]

/-! ## §2. Refusals of a look. -/

/-- A walk is refused because nothing is there, because of a file on the way, or for a length. -/
theorem refusal_cases {r : Refusal} (h : t.locate p = .error r) :
    GrammarDirectory.meansAbsent r = true ∨ r = .nameTooLong := by
  obtain ⟨names⟩ := p
  induction names using List.reverseRecOn with
  | nil =>
    have hroot : t.locate ⟨[]⟩ = .ok (some .directory) := rfl
    rw [hroot] at h
    cases h
  | append_singleton names name ih =>
    have hc : (⟨names ++ [name]⟩ : Path) = (⟨names⟩ : Path).child name := rfl
    rw [hc, locate_child_eq] at h
    split at h
    · cases h
      exact .inr rfl
    · split at h
      · next hl =>
        cases h
        exact ih hl
      · cases h
        exact .inl rfl
      · cases h
        exact .inl rfl
      · split at h
        · cases h
          exact .inr rfl
        · cases h

theorem look_refusal_cases {r : Refusal} (h : t.look p = .error r) :
    GrammarDirectory.meansAbsent r = true ∨ r = .nameTooLong := by
  unfold look at h
  split at h
  · next hl =>
    cases h
    exact refusal_cases hl
  · cases h
    exact .inl rfl
  · cases h

theorem look_eq_nameTooLong_iff : t.look p = .error .nameTooLong ↔ t.IsOverlong p := by
  rw [← locate_eq_nameTooLong_iff]
  unfold look
  cases t.locate p with
  | error r => simp
  | ok e =>
    cases e with
    | none => simp
    | some e => simp

end FileTree

/-! ## §3. Refusals of a directory. -/

namespace GrammarDirectory

open FileTree

variable {d : GrammarDirectory} {room : Option Nat} {t : FileTree} {name : String} {p : Path}
  {f : Failure}

/-- The failure is a problem with the files that names a path; the user has not been told of it. -/
def Reports (p : Path) (f : Failure) : Prop :=
  ∃ message, f = .fresh (.publish .files p message)

theorem reports_problem (p : Path) (what : String) (s : SystemFault) :
    Reports p (problem p what s) := ⟨_, rfl⟩

/-- What the system raises is not a problem that names a path. -/
theorem not_reports_system (p : Path) (s : SystemFault) : ¬ Reports p (.system s) := by
  intro ⟨message, h⟩
  cases h

/-- Nor is what a step of the work cannot handle. -/
theorem not_reports_defect (p : Path) (e : Defect) : ¬ Reports p (.defect e) := by
  intro ⟨message, h⟩
  cases h

/-- **All failures of a write are reported just if the stack has room for the calls that make the
way, and the text can be encoded or its file cannot be opened.** -/
theorem reports_write_iff (hp : d.resolve name = .ok p) {text : LooseText} :
    (∀ f, (d.writeWithin room t name text).2 = .error f → Reports p f) ↔
      t.exhausts room p.parent = false ∧ ((∃ s, text = .of s) ∨ ¬ t.Admits p) := by
  constructor
  · intro hall
    have hroom : t.exhausts room p.parent = false := by
      by_contra hfull
      rw [Bool.not_eq_false] at hfull
      rw [writeWithin_exhausted hp hfull] at hall
      exact not_reports_defect p _ (hall _ rfl)
    refine ⟨hroom, ?_⟩
    rw [← LooseText.fault?_eq_none_iff]
    cases hfault : text.fault? with
    | none => exact .inl rfl
    | some fault =>
      -- If the file could be opened, the text would be at fault.
      refine .inr fun hadmits => not_reports_defect p (.noUtf8Form fault) (hall _ ?_)
      exact (writeWithin_eq_noUtf8Form_iff hfault).2 ⟨p, hp, hadmits, hroom⟩
  · rintro ⟨hroom, htext⟩ f hf
    have houtcome := d.writeWithin_outcome room t name text
    generalize d.writeWithin room t name text = result at houtcome hf
    cases houtcome with
    | unresolved hnone => cases hp.symm.trans hnone
    | exhausted hp' hfull =>
      cases hp.symm.trans hp'
      cases hroom.symm.trans hfull
    | placed hp' _ hplace =>
      cases hp.symm.trans hp'
      rcases htext with hchars | hno
      · cases (encode_eq_ok_iff.2 hchars).symm.trans hf
      · exact absurd (place_eq_ok_iff.1 (by rw [hplace])) hno
    | refused hp' _ _ =>
      cases hp.symm.trans hp'
      cases hf
      exact reports_problem p _ _

theorem reports_delete (hp : d.resolve name = .ok p) (h : (d.delete t name).2 = .error f) :
    Reports p f := by
  unfold GrammarDirectory.delete at h
  rw [hp] at h
  simp only at h
  split at h
  · cases h
  · cases h
  · cases h
    exact reports_problem p _ _

theorem hasFile_of_overlong (hp : d.resolve name = .ok p) (h : t.IsOverlong p) :
    d.hasFile t name = .error (.system ⟨.nameTooLong, p⟩) := by
  unfold GrammarDirectory.hasFile
  rw [hp]
  simp only [look_eq_nameTooLong_iff.2 h]
  rfl

/-- A question is answered unless the way is too long. -/
theorem hasFile_of_not_overlong (hp : d.resolve name = .ok p) (h : ¬ t.IsOverlong p) :
    ∃ b, d.hasFile t name = .ok b := by
  unfold GrammarDirectory.hasFile
  rw [hp]
  simp only
  split
  · exact ⟨true, rfl⟩
  · exact ⟨false, rfl⟩
  · next r hlook =>
    rcases look_refusal_cases hlook with habsent | hr
    · rw [if_pos habsent]
      exact ⟨false, rfl⟩
    · rw [hr] at hlook
      exact absurd (look_eq_nameTooLong_iff.1 hlook) h

theorem list_of_overlong (h : t.IsOverlong d.root) :
    d.list t = .error (.system ⟨.nameTooLong, d.root⟩) := by
  unfold GrammarDirectory.list
  simp only [look_eq_nameTooLong_iff.2 h]
  rfl

/-- A listing that is refused is a problem of the directory, unless the way is too long. -/
theorem reports_list (hshort : ¬ t.IsOverlong d.root) (h : d.list t = .error f) :
    Reports d.root f := by
  unfold GrammarDirectory.list at h
  split at h
  · cases h
  · cases h
    exact reports_problem d.root _ _
  · next r hlook =>
    rcases look_refusal_cases hlook with habsent | hr
    · rw [if_pos habsent] at h
      cases h
    · rw [hr] at hlook
      exact absurd (look_eq_nameTooLong_iff.1 hlook) hshort

/-- A tree with the directory of grammars. -/
def founded : FileTree := ⟨[(⟨["T"]⟩, .directory), (⟨["T", "grammars"]⟩, .directory)]⟩

/-- A name that is too long by one letter. -/
def lengthy : String := repeated 256 'n'

theorem isPlainName_lengthy : IsPlainName lengthy :=
  isPlainName_repeated (by decide) (by decide) (by decide) (by decide)

theorem utf8Length_lengthy : utf8Length lengthy = 256 := utf8Length_repeated (by decide)

theorem resolve_lengthy : grammars.resolve lengthy = .ok (grammars.root.child lengthy) := by
  unfold GrammarDirectory.resolve
  rw [Path.resolve?_plain _ isPlainName_lengthy]

/-- The name is looked for in the directory, so the way is too long. -/
theorem isOverlong_lengthy : founded.IsOverlong (grammars.root.child lengthy) := by
  have hdir : founded.locate grammars.root = .ok (some .directory) := by decide
  refine .inr ⟨grammars.root, lengthy, List.prefix_refl _, directories_of_locate hdir, ?_⟩
  rw [utf8Length_lengthy]
  decide

end GrammarDirectory

end QuasiGrammar
