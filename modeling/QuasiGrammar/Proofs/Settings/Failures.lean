import QuasiGrammar.Proofs.Number.Range
import QuasiGrammar.Proofs.Settings.Reading
import QuasiGrammar.Proofs.Yaml.Defects

/-
  QuasiGrammar.Proofs.Settings.Failures
  ─────────────────────────────────────
  **When a settings file fails as a problem of the file, and when otherwise.**

  Whatever is wrong with a settings file is to be told as a problem of the file,
  with its path.  `Refuses` says that work on the file fails in this way only;
  of work in steps it says that each step that is reached does
  (`refuses_bind_iff`).  So the ways in which a file can fail otherwise are those
  of single steps: octets and scalars that cannot be read (`IsLegible`), a quiet
  period that is too great, and integers that are too long to be written.
-/

namespace QuasiGrammar

open Number Text

/-! ## §1. Failing with a problem of the file. -/

/-- The work fails, if it does, with a problem of the settings file at a path. -/
def Refuses {α : Type} (p : Path) (x : Except Failure α) : Prop :=
  ∀ f, x = .error f → ∃ detail, f = SettingsFile.problem p detail

section Steps

variable {α β : Type} {p : Path}

theorem refuses_ok (a : α) : Refuses p (.ok a) := fun _ h => nomatch h

theorem refuses_problem (detail : String) :
    Refuses p (.error (SettingsFile.problem p detail) : Except Failure α) := fun f h => by
  cases h
  exact ⟨detail, rfl⟩

theorem not_refuses_defect (d : Defect) :
    ¬ Refuses p (.error (.defect d) : Except Failure α) := fun h => by
  obtain ⟨detail, hdetail⟩ := h _ rfl
  cases hdetail

theorem not_refuses_system (f : SystemFault) :
    ¬ Refuses p (.error (.system f) : Except Failure α) := fun h => by
  obtain ⟨detail, hdetail⟩ := h _ rfl
  cases hdetail

/-- Work in two steps fails with problems only if both steps do. -/
theorem refuses_bind_iff {x : Except Failure α} {k : α → Except Failure β} :
    Refuses p (x >>= k) ↔ Refuses p x ∧ ∀ a, x = .ok a → Refuses p (k a) := by
  unfold Refuses
  simp only [bind_eq_error_iff]
  constructor
  · intro h
    exact ⟨fun f hx => h f (.inl hx), fun a hx f hk => h f (.inr ⟨a, hx, hk⟩)⟩
  · rintro ⟨hx, hk⟩ f (h | ⟨a, ha, h⟩)
    · exact hx f h
    · exact hk a ha f h

end Steps

/-! ## §2. Legible files. -/

namespace SettingsFile

/-- A settings file that can be read, or is no YAML: the octets are UTF-8, and all scalars that are
looked at can be read as what they are to be. -/
inductive IsLegible : SettingsFile → Prop
  | missing : IsLegible .missing
  | unreadable {r : Refusal} (h : r ≠ .nameTooLong) : IsLegible (.unreadable r)
  | octets {bs : List UInt8} {cs : List Char} (hutf8 : decodeUtf8 bs = .ok cs)
      (hyaml : ∀ d, Yaml.read (unixLines cs) ≠ .error (.defect d)) : IsLegible (.octets bs)

/-- A file is not legible for the length of its path, for octets that are no UTF-8, or for a defect
of its text. -/
theorem not_isLegible {file : SettingsFile} (h : ¬ file.IsLegible) :
    file = .unreadable .nameTooLong ∨ ∃ bs, file = .octets bs ∧
      ∀ cs, decodeUtf8 bs = .ok cs → ∃ d, Yaml.HasDefect (unixLines cs) d := by
  cases file with
  | missing => exact absurd .missing h
  | unreadable r =>
    by_cases hr : r = .nameTooLong
    · exact .inl (hr ▸ rfl)
    · exact absurd (.unreadable hr) h
  | octets bs =>
    refine .inr ⟨bs, rfl, fun cs hutf8 => ?_⟩
    by_contra hnone
    exact h (.octets hutf8 fun d hd => hnone ⟨d, Yaml.read_defect hd⟩)

/-- A settings file of which nothing is left aside: no half of a surrogate pair breaks off the
reading of its text, and its collections exhaust no stack. -/
def IsCovered (file : SettingsFile) : Prop :=
  ∀ bs cs, file = .octets bs → decodeUtf8 bs = .ok cs →
    Yaml.read (unixLines cs) ≠ .error .strayHalf ∧ Yaml.IsShallow (unixLines cs)

theorem refuses_valueOf_iff {p : Path} {bs : List UInt8} (hfile : IsCovered (.octets bs)) :
    Refuses p (valueOf p bs) ↔ IsLegible (.octets bs) := by
  cases hutf8 : decodeUtf8 bs with
  | error fault =>
    have hvalue : valueOf p bs = .error (.defect (.notUtf8 fault)) := by simp [valueOf, hutf8]
    rw [hvalue]
    refine iff_of_false (not_refuses_defect _) fun h => ?_
    cases h with
    | octets h => cases hutf8.symm.trans h
  | ok cs =>
    have hvalue : valueOf p bs = (Yaml.read (unixLines cs)).mapError (failureOf p) := by
      simp [valueOf, hutf8]
    rw [hvalue]
    cases hyaml : Yaml.read (unixLines cs) with
    | ok v => exact iff_of_true (refuses_ok v) (.octets hutf8 fun d h => nomatch hyaml.symm.trans h)
    | error fault =>
      cases fault with
      | malformed =>
        exact iff_of_true (refuses_problem _)
          (.octets hutf8 fun d h => nomatch hyaml.symm.trans h)
      | defect d =>
        refine iff_of_false (not_refuses_defect d) fun h => ?_
        cases h with
        | octets h hlegible =>
          cases hutf8.symm.trans h
          exact hlegible d hyaml
      | strayHalf => exact absurd hyaml (hfile bs cs rfl hutf8).1

/-- The entries of a value: those of a map, and none of null. -/
theorem entries_octets (p : Path) (bs : List UInt8) :
    entries p (.octets bs) = (valueOf p bs >>= fun v =>
      match v with
      | .null => .ok []
      | .map entries => .ok entries
      | _ => .error (problem p "expected a mapping at the top level")) := by
  simp only [entries]
  cases valueOf p bs with
  | error f => rfl
  | ok v => cases v <;> rfl

theorem refuses_entries_iff {p : Path} {file : SettingsFile} (hfile : file.IsCovered) :
    Refuses p (file.entries p) ↔ file.IsLegible := by
  cases file with
  | missing => exact iff_of_true (refuses_ok _) .missing
  | unreadable r =>
    by_cases hr : r = .nameTooLong
    · subst hr
      refine iff_of_false (not_refuses_system _) fun h => ?_
      cases h with
      | unreadable h => exact h rfl
    · have hentries : entries p (.unreadable r) = .error (problem p (SystemFault.message ⟨r, p⟩)) := by
        cases r <;> first | rfl | exact absurd rfl hr
      rw [hentries]
      exact iff_of_true (refuses_problem _) (.unreadable hr)
  | octets bs =>
    rw [entries_octets, refuses_bind_iff, refuses_valueOf_iff hfile, and_iff_left_iff_imp]
    intro _ v _
    -- A value that is no map is a problem of the file.
    split
    · exact refuses_ok _
    · exact refuses_ok _
    · exact refuses_problem _

end SettingsFile

/-! ## §3. Settings. -/

namespace Settings

variable {p : Path}

theorem refuses_sectionOf (entries : List (Value × Value)) : Refuses p (sectionOf p entries) := by
  unfold sectionOf
  split
  · exact refuses_ok _
  · next v _ =>
    split
    · exact refuses_ok _
    · cases v <;> first | exact refuses_ok _ | exact refuses_problem _

theorem refuses_checkQuietPeriod (v : Value) : Refuses p (checkQuietPeriod p v) :=
  fun _ h => checkQuietPeriod_eq_error h

/-- The text of a setting fails to be taken only because of an integer that is too long. -/
theorem textOf_cases (v : Value) :
    (v.holdsLongInt = false ∧ ∃ s, textOf v = .ok s) ∨
      v.holdsLongInt = true ∧ textOf v = .error (.defect .tooLongToWrite) := by
  have hshown : (v.holdsLongInt = false ∧ ∃ s, v.shownText.mapError Failure.defect = .ok s) ∨
      v.holdsLongInt = true ∧
        v.shownText.mapError Failure.defect = .error (.defect .tooLongToWrite) := by
    unfold Value.shownText
    cases v.holdsLongInt with
    | false => exact .inl ⟨rfl, _, rfl⟩
    | true => exact .inr ⟨rfl, rfl⟩
  cases v with
  | text s => exact .inl ⟨rfl, s, rfl⟩
  | date d => exact .inl ⟨rfl, _, rfl⟩
  | moment m => exact .inl ⟨rfl, _, rfl⟩
  | _ => exact hshown

theorem refuses_textOf_iff {v : Value} : Refuses p (textOf v) ↔ v.holdsLongInt = false := by
  rcases textOf_cases v with ⟨hlong, s, hs⟩ | ⟨hlong, hs⟩
  · rw [hs]
    exact iff_of_true (refuses_ok s) hlong
  · rw [hs, hlong]
    exact iff_of_false (not_refuses_defect _) Bool.noConfusion

theorem exists_textOf_iff {v : Value} : (∃ s, textOf v = .ok s) ↔ v.holdsLongInt = false := by
  rcases textOf_cases v with ⟨hlong, hs⟩ | ⟨hlong, hs⟩
  · exact iff_of_true hs hlong
  · rw [hs, hlong]
    exact iff_of_false (fun h => nomatch h) Bool.noConfusion

/-- A number of seconds fails to be taken only because of an integer that is too great. -/
theorem secondsOf_cases (v : Value) :
    ((∀ i, v = .int i → i.natAbs < Binary64.bound) ∧ ∃ x, secondsOf v = .ok x) ∨
      (∃ i, v = .int i ∧ Binary64.bound ≤ i.natAbs) ∧
        secondsOf v = .error (.defect .numberTooLarge) := by
  cases v with
  | int i =>
    cases hx : Binary64.ofInt? i with
    | none => exact .inr ⟨⟨i, rfl, Binary64.ofInt?_eq_none_iff.1 hx⟩, by simp [secondsOf, hx]⟩
    | some x =>
      refine .inl ⟨fun j hj => ?_, x, by simp [secondsOf, hx]⟩
      cases hj
      rw [← Nat.not_le, ← Binary64.ofInt?_eq_none_iff, hx]
      exact fun h => nomatch h
  | _ => exact .inl ⟨(fun i h => nomatch h), _, rfl⟩

theorem refuses_secondsOf_iff {v : Value} :
    Refuses p (secondsOf v) ↔ ∀ i, v = .int i → i.natAbs < Binary64.bound := by
  rcases secondsOf_cases v with ⟨hbound, x, hx⟩ | ⟨⟨i, hv, hi⟩, hx⟩
  · rw [hx]
    exact iff_of_true (refuses_ok x) hbound
  · rw [hx]
    exact iff_of_false (not_refuses_defect _) fun h => absurd (h i hv) (Nat.not_lt.2 hi)

/-- No check refuses a section: its quiet period is a number that is not negative, and its scope
name is a dotted identifier. -/
structure Passes (inner : List (Value × Value)) : Prop where
  period : IsPeriod (quietIn inner)
  scopeName : ∃ s, textOf (valueIn inner "scopeName" ({} : Settings).scopeName) = .ok s ∧
    isDotted s.toList = true

/-- The numbers in a section are within bounds, as far as they are looked at: no text is asked of an
integer that is too long to be written, and the quiet period is not too great. -/
structure WithinBounds (inner : List (Value × Value)) : Prop where
  scopeName : IsPeriod (quietIn inner) →
    (valueIn inner "scopeName" ({} : Settings).scopeName).holdsLongInt = false
  quietPeriod : Passes inner → ∀ i, quietIn inner = .int i → i.natAbs < Binary64.bound
  notificationSource : Passes inner →
    (valueIn inner "notificationSource" ({} : Settings).notificationSource).holdsLongInt = false
  filePrefix : Passes inner →
    (valueIn inner "filePrefix" ({} : Settings).filePrefix).holdsLongInt = false

theorem refuses_ofPassed_iff {inner : List (Value × Value)} {scopeName : String} :
    Refuses p (ofPassed inner scopeName) ↔
      (∀ i, quietIn inner = .int i → i.natAbs < Binary64.bound) ∧
        (valueIn inner "notificationSource" ({} : Settings).notificationSource).holdsLongInt = false ∧
          (valueIn inner "filePrefix" ({} : Settings).filePrefix).holdsLongInt = false := by
  unfold ofPassed
  simp only [refuses_bind_iff, refuses_textOf_iff, refuses_secondsOf_iff, refuses_ok, implies_true,
    and_true]
  -- Each step is reached just if those before it give something.
  refine and_congr_right fun hquiet => ?_
  have hseconds : ∃ x, secondsOf (quietIn inner) = .ok x := by
    rcases secondsOf_cases (quietIn inner) with ⟨-, hx⟩ | ⟨⟨i, hv, hi⟩, -⟩
    · exact hx
    · exact absurd (hquiet i hv) (Nat.not_lt.2 hi)
  obtain ⟨x, hx⟩ := hseconds
  refine ⟨fun h => ?_, fun h _ _ => ⟨h.1, fun _ _ => h.2⟩⟩
  obtain ⟨hsource, hbegin⟩ := h x hx
  obtain ⟨s, hs⟩ := exists_textOf_iff.2 hsource
  exact ⟨hsource, hbegin s hs⟩

theorem refuses_ofSection_iff {inner : List (Value × Value)} :
    Refuses p (ofSection p inner) ↔ WithinBounds inner := by
  rw [ofSection_eq]
  simp only [refuses_bind_iff, refuses_textOf_iff]
  constructor
  · rintro ⟨-, h⟩
    have hpassed : Passes inner → ∃ s, Refuses p (ofPassed inner s) := fun hpass => by
      obtain ⟨s, hs, hdotted⟩ := hpass.scopeName
      have := (h () (checkQuietPeriod_eq_ok_iff.2 hpass.period)).2 s hs
      rw [if_pos hdotted] at this
      exact ⟨s, this⟩
    have hbounds := fun hpass => refuses_ofPassed_iff.1 (hpassed hpass).choose_spec
    exact {
      scopeName := fun hperiod => (h () (checkQuietPeriod_eq_ok_iff.2 hperiod)).1
      quietPeriod := fun hpass => (hbounds hpass).1
      notificationSource := fun hpass => (hbounds hpass).2.1
      filePrefix := fun hpass => (hbounds hpass).2.2 }
  · intro h
    refine ⟨refuses_checkQuietPeriod _, fun _ hperiod => ?_⟩
    have hperiod := checkQuietPeriod_eq_ok_iff.1 hperiod
    refine ⟨h.scopeName hperiod, fun s hs => ?_⟩
    split
    · next hdotted =>
      have hpass : Passes inner := ⟨hperiod, s, hs, hdotted⟩
      exact refuses_ofPassed_iff.2
        ⟨h.quietPeriod hpass, h.notificationSource hpass, h.filePrefix hpass⟩
    · exact refuses_problem _

theorem refuses_read_iff {file : SettingsFile} (hfile : file.IsCovered) :
    Refuses p (read p file) ↔
      file.IsLegible ∧ ∀ inner, HasSection p file inner → WithinBounds inner := by
  unfold read HasSection
  simp only [refuses_bind_iff, SettingsFile.refuses_entries_iff hfile, refuses_sectionOf, true_and,
    refuses_ofSection_iff]
  refine and_congr_right fun _ => ?_
  exact ⟨fun h inner ⟨entries, he, hi⟩ => h entries he inner hi,
    fun h entries he inner hi => h inner ⟨entries, he, hi⟩⟩

/-! ## §4. Rules. -/

/-- The value at which a list of rules is refused is the first that is no text. -/
theorem textItems_eq_error_iff {items : List Value} {v : Value} :
    textItems items = .error v ↔
      ∃ (before : List String) (after : List Value),
        items = before.map .text ++ v :: after ∧ ∀ s, v ≠ .text s := by
  induction items with
  | nil => simp [textItems]
  | cons w items ih =>
    cases w with
    | text s =>
      have hmap : textItems (.text s :: items) = .error v ↔ textItems items = .error v := by
        cases h : textItems items <;> simp [textItems, h, Except.map]
      rw [hmap, ih]
      constructor
      · rintro ⟨before, after, rfl, hv⟩
        exact ⟨s :: before, after, rfl, hv⟩
      · rintro ⟨before, after, hitems, hv⟩
        cases before with
        | nil =>
          cases hitems
          exact absurd rfl (hv s)
        | cons b before =>
          cases hitems
          exact ⟨before, after, rfl, hv⟩
    | _ =>
      constructor
      · intro h
        cases h
        exact ⟨[], items, rfl, by simp⟩
      · rintro ⟨before, after, hitems, -⟩
        cases before with
        | nil =>
          cases hitems
          rfl
        | cons b before => cases hitems

/-- The value that a list of rules is refused for, if there is one, can be shown. -/
def ShowsRefused (key : String) (entries : List (Value × Value)) : Prop :=
  ∀ (before : List String) (v : Value) (after : List Value),
    Value.lookup key entries = some (.list (before.map .text ++ v :: after)) → v.holdsLongInt = false

theorem refuses_shown_iff {v : Value} {detail : String → String} :
    Refuses p ((v.shownText.mapError Failure.defect >>= fun shown =>
      .error (SettingsFile.problem p (detail shown))) : Reading (List String)) ↔
        v.holdsLongInt = false := by
  unfold Value.shownText
  cases v.holdsLongInt with
  | false => exact iff_of_true (refuses_problem _) rfl
  | true => exact iff_of_false (not_refuses_defect _) Bool.noConfusion

theorem refuses_readRules_iff {key : String} {file : SettingsFile} (hfile : file.IsCovered) :
    Refuses p (readRules p key file) ↔
      file.IsLegible ∧ ∀ entries, file.entries p = .ok entries → ShowsRefused key entries := by
  unfold readRules
  rw [refuses_bind_iff, SettingsFile.refuses_entries_iff hfile]
  refine and_congr_right fun _ => forall_congr' fun entries => imp_congr_right fun _ => ?_
  unfold ShowsRefused
  -- Only a list of rules can hold a value that is to be shown.
  cases hrules : Value.lookup key entries with
  | none => exact iff_of_true (refuses_ok _) fun _ _ _ h => nomatch h
  | some rules =>
    cases rules with
    | null => exact iff_of_true (refuses_ok _) fun _ _ _ h => nomatch h
    | list items =>
      cases hitems : textItems items with
      | ok texts =>
        simp only [hitems]
        refine iff_of_true (refuses_ok texts) fun before v after h => ?_
        cases h
        have hmem : v ∈ texts.map Value.text := by
          rw [← textItems_eq_ok_iff.1 hitems]
          exact List.mem_append_right _ List.mem_cons_self
        obtain ⟨s, -, rfl⟩ := List.mem_map.1 hmem
        rfl
      | error v =>
        simp only [hitems]
        refine refuses_shown_iff.trans ⟨fun hv before w after h => ?_, fun h => ?_⟩
        · cases h
          by_cases hw : ∀ s, w ≠ .text s
          · have hfirst := textItems_eq_error_iff.2 ⟨before, after, rfl, hw⟩
            cases hitems.symm.trans hfirst
            exact hv
          · obtain ⟨s, rfl⟩ := not_forall_not.1 hw
            rfl
        · obtain ⟨before, after, rfl, -⟩ := textItems_eq_error_iff.1 hitems
          exact h before v after rfl
    | _ => exact iff_of_true (refuses_problem _) fun _ _ _ h => nomatch h

/-! ## §5. Both ways to read a file. -/

/-- A settings file that holds a list. -/
def listFile : SettingsFile := .octets (encodeUtf8 "- a\n")

end Settings

end QuasiGrammar
