import QuasiGrammar.Files.Operation
import QuasiGrammar.Proofs.Files.Way

/-
  QuasiGrammar.Proofs.Files.Effects
  ─────────────────────────────────
  **What an operation of the directory does to the whole tree**, for any name:
  it may go up and down by dots, begin at the root, be too long, or be no name
  at all (`changes_one_file_or_none`).

      write_returns           the file holds the text, and the directories above it are there
      write_fails             all files are as they were, and some directories above the file may
                              have been made before the refusal; or the file is empty
      delete_returns          nothing is at the path any more
      writeWithin_eq_ok_iff   just when a file is written
-/

namespace QuasiGrammar

namespace FileTree

/-- The same files are there, with the same texts. -/
def SameFiles (t u : FileTree) : Prop :=
  ∀ q text, u.get? q = some (.file text) ↔ t.get? q = some (.file text)

/-- A file has been deleted, if there was one, and nothing else has changed. -/
structure Deletes (p : Path) (t u : FileTree) : Prop where
  gone : u.get? p = none
  noDirectory : t.get? p ≠ some .directory
  others : ∀ q, q ≠ p → u.get? q = t.get? q

variable {t u : FileTree} {p : Path}

theorem MakesWay.sameFiles (h : MakesWay p t u) : SameFiles t u := by
  intro q text
  constructor
  · intro hfile
    exact h.fewerFiles q text hfile
  · intro hfile
    -- A directory has been made only where nothing was.
    rcases h q with hsame | ⟨-, hnone, -⟩
    · rw [hsame]
      exact hfile
    · rw [hnone] at hfile
      cases hfile

end FileTree

namespace GrammarDirectory

open FileTree Text

variable {d : GrammarDirectory} {room : Option Nat} {t u : FileTree} {name : String} {p : Path}

/-- A name leads to a file that can be opened to be written. -/
structure Opens (d : GrammarDirectory) (room : Option Nat) (t : FileTree) (name : String)
    (p : Path) : Prop where
  resolves : d.resolve name = .ok p
  admits : t.Admits p
  hasRoom : t.exhausts room p.parent = false

/-- The file of a name has been opened, and holds a text. -/
structure Opened (d : GrammarDirectory) (room : Option Nat) (name : String) (p : Path)
    (text : String) (t u : FileTree) : Prop where
  opens : d.Opens room t name p
  writes : Writes p text t u
  directories : ∀ q : Path, q.names <+: p.parent.names → u.get? q = some .directory

/-- All files are as they were; what may be new are directories on the way to the file of a name. -/
def LeavesFiles (d : GrammarDirectory) (name : String) (t u : FileTree) : Prop :=
  SameFiles t u ∧ (u = t ∨ ∃ p, d.resolve name = .ok p ∧ MakesWay p.parent t u)

theorem LeavesFiles.refl (d : GrammarDirectory) (name : String) (t : FileTree) :
    d.LeavesFiles name t t := ⟨fun _ _ => Iff.rfl, .inl rfl⟩

theorem opened_of_place {text : String} (hp : d.resolve name = .ok p)
    (hroom : t.exhausts room p.parent = false) (h : t.place p text = (u, .ok ())) :
    d.Opened room name p text t u := by
  have hadmits : t.Admits p := place_eq_ok_iff.1 (by rw [h])
  exact ⟨⟨hp, hadmits, hroom⟩, writes_of_place h, directories_of_place h⟩

/-- Only the text can be at fault in a file that can be opened. -/
theorem Opens.written (h : d.Opens room t name p) (text : LooseText) :
    ∃ u, d.writeWithin room t name text = (u, encode text) ∧
      d.Opened room name p text.written t u := by
  have hok := h.admits.place text.written
  generalize hplace : t.place p text.written = placed at hok
  obtain ⟨u, result⟩ := placed
  cases hok
  exact ⟨u, writeWithin_placed h.resolves h.hasRoom hplace,
    opened_of_place h.resolves h.hasRoom hplace⟩

/-- **The file is opened, and then only the text can be at fault; or all files stay as they
were.** -/
theorem writeWithin_ends {text : LooseText} {r : Except Failure Unit}
    (h : d.writeWithin room t name text = (u, r)) :
    (∃ p, r = encode text ∧ d.Opened room name p text.written t u) ∨
      (∃ f, r = .error f ∧ ∀ fault, f ≠ .defect (.noUtf8Form fault)) ∧ d.LeavesFiles name t u := by
  have houtcome := d.writeWithin_outcome room t name text
  rw [h] at houtcome
  cases houtcome with
  | @unresolved f hp =>
    refine .inr ⟨⟨f, rfl, ?_⟩, .refl d name _⟩
    unfold resolve at hp
    split at hp
    · cases hp
      exact fun _ hbad => nomatch hbad
    · cases hp
  | exhausted => exact .inr ⟨⟨_, rfl, fun _ hbad => nomatch hbad⟩, .refl d name _⟩
  | @placed p _ hp hroom hplace => exact .inl ⟨p, rfl, opened_of_place hp hroom hplace⟩
  | @refused p _ f hp _ hplace =>
    have hway := makesWay_of_place hplace
    exact .inr ⟨⟨_, rfl, fun _ hbad => nomatch hbad⟩, hway.sameFiles, .inr ⟨p, hp, hway⟩⟩

theorem encode_eq_ok_iff {text : LooseText} : encode text = .ok () ↔ ∃ s, text = .of s := by
  rw [← LooseText.fault?_eq_none_iff]
  unfold encode
  cases text.fault? <;> simp

theorem write_returns {text : LooseText} (h : d.writeWithin room t name text = (u, .ok ())) :
    ∃ p s, text = .of s ∧ d.Opened room name p s t u := by
  rcases writeWithin_ends h with ⟨p, hencode, hopened⟩ | ⟨⟨f, hbad, -⟩, -⟩
  · obtain ⟨s, rfl⟩ := encode_eq_ok_iff.1 hencode.symm
    rw [LooseText.written_of] at hopened
    exact ⟨p, s, rfl, hopened⟩
  · cases hbad

theorem write_fails {text : LooseText} {f : Failure}
    (h : d.writeWithin room t name text = (u, .error f)) :
    d.LeavesFiles name t u ∨ ∃ p fault, text.fault? = some fault ∧
      f = .defect (.noUtf8Form fault) ∧ d.Opened room name p "" t u := by
  rcases writeWithin_ends h with ⟨p, hencode, hopened⟩ | ⟨-, hleaves⟩
  · cases hfault : text.fault? with
    | none =>
      rw [encode_eq_ok_iff.2 (LooseText.fault?_eq_none_iff.1 hfault)] at hencode
      cases hencode
    | some fault =>
      rw [encode_of_fault hfault] at hencode
      rw [LooseText.written_of_fault hfault] at hopened
      exact .inr ⟨p, fault, rfl, Except.error.inj hencode, hopened⟩
  · exact .inl hleaves

theorem delete_returns (hg : t.IsGrounded) (h : d.delete t name = (u, .ok ())) :
    ∃ p, d.resolve name = .ok p ∧ Deletes p t u := by
  cases hp : d.resolve name with
  | error f =>
    rw [delete_unresolved hp] at h
    cases h
  | ok p =>
    have hgone : u.get? p = none := get?_of_delete hg.get?_of_noEntry hp h
    rcases delete_cases hp h with hsame | ⟨-, ⟨text, hfile⟩, hu⟩
    · subst hsame
      exact ⟨p, rfl, hgone, by rw [hgone]; simp, fun q _ => rfl⟩
    · subst hu
      exact ⟨p, rfl, hgone, by rw [hfile]; simp, fun q hq => get?_erase_of_ne t hq⟩

/-- A text is written just if it is one of characters and the file of its name can be opened. -/
theorem writeWithin_eq_ok_iff {text : LooseText} :
    (d.writeWithin room t name text).2 = .ok () ↔
      (∃ s, text = .of s) ∧ ∃ p, d.Opens room t name p := by
  constructor
  · intro h
    obtain ⟨p, s, htext, hopened⟩ := write_returns (Prod.ext rfl h)
    exact ⟨⟨s, htext⟩, p, hopened.opens⟩
  · rintro ⟨htext, p, hopens⟩
    obtain ⟨u, hu, -⟩ := hopens.written text
    rw [hu]
    exact encode_eq_ok_iff.2 htext

/-- A text that cannot be encoded fails for that just if the file of its name can be opened. -/
theorem writeWithin_eq_noUtf8Form_iff {text : LooseText} {fault : EncodingFault}
    (hfault : text.fault? = some fault) :
    (d.writeWithin room t name text).2 = .error (.defect (.noUtf8Form fault)) ↔
      ∃ p, d.Opens room t name p := by
  constructor
  · intro h
    generalize hw : d.writeWithin room t name text = result at h
    obtain ⟨u, r⟩ := result
    rcases writeWithin_ends hw with ⟨p, -, hopened⟩ | ⟨⟨f, hf, hother⟩, -⟩
    · exact ⟨p, hopened.opens⟩
    · rw [hf] at h
      exact absurd (Except.error.inj h) (hother fault)
  · rintro ⟨p, hopens⟩
    obtain ⟨u, hu, -⟩ := hopens.written text
    rw [hu]
    exact encode_of_fault hfault

/-- A directory with a file. -/
def grown : FileTree :=
  ⟨[(⟨["T"]⟩, .directory), (⟨["T", "grammars"]⟩, .directory),
    (⟨["T", "grammars", "a"]⟩, .file "1")]⟩

end GrammarDirectory

end QuasiGrammar
