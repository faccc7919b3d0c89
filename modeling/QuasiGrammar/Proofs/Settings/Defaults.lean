import Mathlib
import QuasiGrammar.Proofs.Settings.Failures

/-
  QuasiGrammar.Proofs.Settings.Defaults
  ─────────────────────────────────────
  **Which settings come from the file, and which are the defaults.**

  A file, its section of settings and each of the settings can say nothing, and
  this should always mean the defaults; whatever else is not of the right kind
  should be refused (`AsIntended`).  The file itself is asked whether it is null.
  The section is asked whether it is blank, so that a false, a zero and a few
  other values pass for an empty section (`IsHollow`).  A setting is not asked
  at all: a null is no period, and as a text it reads "None" (`HasNullKey`).
  These are all deviations (`read_asIntended_iff`).
-/

namespace QuasiGrammar.Settings

variable {p : Path} {inner entries : List (Value × Value)} {settings : Settings}

/-! ## §1. What is intended. -/

/-- What a key is to give: the value that it has, unless it has none or the value is null. -/
def given (inner : List (Value × Value)) (key : String) (initial : Value) : Value :=
  match Value.lookup key inner with
  | none | some .null => initial
  | some v => v

/-- The settings that a section is to give. -/
structure Gives (inner : List (Value × Value)) (settings : Settings) : Prop where
  period : IsPeriod (given inner "quietPeriod" (.float ({} : Settings).quietPeriod))
  quietPeriod :
    secondsOf (given inner "quietPeriod" (.float ({} : Settings).quietPeriod)) =
      .ok settings.quietPeriod
  scopeName :
    textOf (given inner "scopeName" (.text ({} : Settings).scopeName)) = .ok settings.scopeName
  dotted : isDotted settings.scopeName.toList = true
  notificationSource :
    textOf (given inner "notificationSource" (.text ({} : Settings).notificationSource)) =
      .ok settings.notificationSource
  filePrefix :
    textOf (given inner "filePrefix" (.text ({} : Settings).filePrefix)) = .ok settings.filePrefix

/-- The reading is what is intended for a section: the defaults where it says nothing, a problem of
the file where it is no map or its period is no number that is not negative, and otherwise the
settings that it is to give. -/
def SectionAsIntended (p : Path) (w : Option Value) (reading : Reading Settings) : Prop :=
  match w with
  | none | some .null => reading = .ok {}
  | some (.map inner) =>
      (∀ settings, reading = .ok settings ↔ Gives inner settings) ∧
        (¬ IsPeriod (given inner "quietPeriod" (.float ({} : Settings).quietPeriod)) →
          ∃ detail, reading = .error (SettingsFile.problem p detail))
  | some _ => ∃ detail, reading = .error (SettingsFile.problem p detail)

/-- The reading is what is intended for the value of a file. -/
def AsIntended (p : Path) (v : Value) (reading : Reading Settings) : Prop :=
  match v with
  | .null => reading = .ok {}
  | .map entries => SectionAsIntended p (Value.lookup sectionKey entries) reading
  | _ => ∃ detail, reading = .error (SettingsFile.problem p detail)

/-- A value that is taken for an empty section, although it is neither null nor a map. -/
def IsHollow (v : Value) : Prop := v.isBlankValue = true ∧ v ≠ .null ∧ ∀ inner, v ≠ .map inner

/-- The keys of the settings. -/
def settingKeys : List String := ["quietPeriod", "scopeName", "notificationSource", "filePrefix"]

/-- One of the settings is null. -/
def HasNullKey (inner : List (Value × Value)) : Prop :=
  ∃ key ∈ settingKeys, Value.lookup key inner = some .null

/-! ## §2. Settings that are null. -/

theorem given_of_null {key : String} (h : Value.lookup key inner = some .null) (initial : Value) :
    given inner key initial = initial := by
  simp only [given, h]

/-- A setting that is not null is taken as it is. -/
theorem given_eq_getD {key : String} (h : Value.lookup key inner ≠ some .null) (initial : Value) :
    given inner key initial = (Value.lookup key inner).getD initial := by
  unfold given
  cases hv : Value.lookup key inner with
  | none => rfl
  | some v =>
    cases v with
    | null => exact absurd hv h
    | _ => rfl

/-- The value of a period is not null. -/
theorem lookup_quietPeriod_ne_null (h : IsPeriod (quietIn inner)) :
    Value.lookup "quietPeriod" inner ≠ some .null := by
  intro hnull
  unfold quietIn at h
  rw [hnull] at h
  cases h

/-- A null reads "None". -/
theorem textOf_valueIn_of_null {key initial s : String} (h : Value.lookup key inner = some .null)
    (hs : textOf (valueIn inner key initial) = .ok s) : s = "None" := by
  unfold valueIn at hs
  rw [h] at hs
  exact (Except.ok.inj hs).symm

/-- A key that is null is to give its default. -/
theorem textOf_given_of_null {key initial s : String} (h : Value.lookup key inner = some .null)
    (hs : textOf (given inner key (.text initial)) = .ok s) : s = initial := by
  rw [given_of_null h] at hs
  exact (Except.ok.inj hs).symm

/-- Whatever text a key gives, it is to give its default or this text. -/
theorem exists_textOf_given {key initial s : String}
    (h : textOf (valueIn inner key initial) = .ok s) :
    ∃ s', textOf (given inner key (.text initial)) = .ok s' ∧ (s' = initial ∨ s' = s) := by
  by_cases hnull : Value.lookup key inner = some .null
  · rw [given_of_null hnull]
    exact ⟨initial, rfl, .inl rfl⟩
  · rw [given_eq_getD hnull]
    exact ⟨s, h, .inr rfl⟩

/-- Without nulls a section gives what it is to give. -/
theorem gives_iff_describes (h : ¬ HasNullKey inner) :
    Gives inner settings ↔ Describes inner settings := by
  have hkeep : ∀ key ∈ settingKeys, Value.lookup key inner ≠ some .null :=
    fun key hkey hnull => h ⟨key, hkey, hnull⟩
  have hquiet : given inner "quietPeriod" (.float ({} : Settings).quietPeriod) = quietIn inner :=
    given_eq_getD (hkeep _ (by decide)) _
  have htext : ∀ key ∈ settingKeys, ∀ initial,
      given inner key (.text initial) = valueIn inner key initial :=
    fun key hkey initial => given_eq_getD (hkeep key hkey) _
  have hscope := htext "scopeName" (by decide) ({} : Settings).scopeName
  have hsource := htext "notificationSource" (by decide) ({} : Settings).notificationSource
  have hstart := htext "filePrefix" (by decide) ({} : Settings).filePrefix
  constructor
  · intro hgives
    exact {
      period := hquiet ▸ hgives.period
      quietPeriod := hquiet ▸ hgives.quietPeriod
      scopeName := hscope ▸ hgives.scopeName
      dotted := hgives.dotted
      notificationSource := hsource ▸ hgives.notificationSource
      filePrefix := hstart ▸ hgives.filePrefix }
  · intro hdescribes
    exact {
      period := hquiet.symm ▸ hdescribes.period
      quietPeriod := hquiet.symm ▸ hdescribes.quietPeriod
      scopeName := hscope.symm ▸ hdescribes.scopeName
      dotted := hdescribes.dotted
      notificationSource := hsource.symm ▸ hdescribes.notificationSource
      filePrefix := hstart.symm ▸ hdescribes.filePrefix }

/-- With a null a section does not give what it is to give. -/
theorem Gives.not_describes (h : Gives inner settings) (hnull : HasNullKey inner) :
    ¬ Describes inner settings := by
  intro hdescribes
  obtain ⟨key, hkey, hnull⟩ := hnull
  simp only [settingKeys, List.mem_cons, List.not_mem_nil, or_false] at hkey
  rcases hkey with rfl | rfl | rfl | rfl
  · exact lookup_quietPeriod_ne_null hdescribes.period hnull
  · have hdefault := textOf_given_of_null hnull h.scopeName
    rw [textOf_valueIn_of_null hnull hdescribes.scopeName] at hdefault
    exact absurd hdefault (by decide)
  · have hdefault := textOf_given_of_null hnull h.notificationSource
    rw [textOf_valueIn_of_null hnull hdescribes.notificationSource] at hdefault
    exact absurd hdefault (by decide)
  · have hdefault := textOf_given_of_null hnull h.filePrefix
    rw [textOf_valueIn_of_null hnull hdescribes.filePrefix] at hdefault
    exact absurd hdefault (by decide)

/-- A section that gives settings is to give some. -/
theorem Describes.exists_gives (h : Describes inner settings) :
    ∃ settings', Gives inner settings' := by
  have hquiet := given_eq_getD (lookup_quietPeriod_ne_null h.period)
    (.float ({} : Settings).quietPeriod)
  obtain ⟨scopeName, hscope, hwhich⟩ := exists_textOf_given h.scopeName
  obtain ⟨source, hsource, -⟩ := exists_textOf_given h.notificationSource
  obtain ⟨start, hstart, -⟩ := exists_textOf_given h.filePrefix
  have hdotted : isDotted scopeName.toList = true := by
    rcases hwhich with rfl | rfl
    · decide
    · exact h.dotted
  exact ⟨⟨settings.quietPeriod, source, scopeName, start⟩, {
    period := hquiet.symm ▸ h.period
    quietPeriod := hquiet.symm ▸ h.quietPeriod
    scopeName := hscope
    dotted := hdotted
    notificationSource := hsource
    filePrefix := hstart }⟩

/-- **A section gives what it is to give just if it has no nulls, or is to give nothing anyway.** -/
theorem describes_iff_gives_iff :
    (∀ settings, Describes inner settings ↔ Gives inner settings) ↔
      (HasNullKey inner → ∀ settings, ¬ Gives inner settings) := by
  constructor
  · intro hsame hnull settings hgives
    exact hgives.not_describes hnull ((hsame settings).2 hgives)
  · intro hnone settings
    by_cases hnull : HasNullKey inner
    · refine iff_of_false (fun hdescribes => ?_) (hnone hnull settings)
      obtain ⟨settings', hgives⟩ := hdescribes.exists_gives
      exact hnone hnull settings' hgives
    · exact (gives_iff_describes hnull).symm

/-! ## §3. Sections. -/

/-- An empty section stands for the defaults. -/
theorem ofSection_nil (p : Path) : ofSection p [] = .ok {} :=
  ofSection_eq_ok_iff.2 ⟨.float rfl, rfl, rfl, by decide, rfl, rfl⟩

/-- A section that is to give something else than a period fails. -/
theorem ofSection_of_not_isPeriod
    (h : ¬ IsPeriod (given inner "quietPeriod" (.float ({} : Settings).quietPeriod))) :
    ∃ detail, ofSection p inner = .error (SettingsFile.problem p detail) := by
  have hnull : Value.lookup "quietPeriod" inner ≠ some .null := by
    intro hnull
    rw [given_of_null hnull] at h
    exact h (.float rfl)
  rw [given_eq_getD hnull] at h
  rw [ofSection_eq]
  cases hcheck : checkQuietPeriod p (quietIn inner) with
  | ok u => exact absurd (checkQuietPeriod_eq_ok_iff.1 hcheck) h
  | error f =>
    obtain ⟨detail, rfl⟩ := checkQuietPeriod_eq_error hcheck
    exact ⟨detail, rfl⟩

/-- A section that is a map is read as is intended just if no setting is null where the others are
acceptable. -/
theorem ofSection_asIntended_iff :
    SectionAsIntended p (some (.map inner)) (ofSection p inner) ↔
      (HasNullKey inner → ∀ settings, ¬ Gives inner settings) := by
  rw [← describes_iff_gives_iff]
  show (∀ settings, ofSection p inner = .ok settings ↔ Gives inner settings) ∧ _ ↔ _
  simp only [ofSection_eq_ok_iff]
  exact and_iff_left ofSection_of_not_isPeriod

theorem sectionOf_of_none (h : Value.lookup sectionKey entries = none) :
    sectionOf p entries = .ok [] := by
  simp only [sectionOf, h]

/-- A blank section is taken for an empty one. -/
theorem sectionOf_of_blank {w : Value} (h : Value.lookup sectionKey entries = some w)
    (hblank : w.isBlankValue = true) : sectionOf p entries = .ok [] := by
  simp only [sectionOf, h, hblank, if_true]

theorem sectionOf_of_map (h : Value.lookup sectionKey entries = some (.map inner)) :
    sectionOf p entries = .ok inner := by
  cases inner with
  | nil => exact sectionOf_of_blank h rfl
  | cons e rest =>
    unfold sectionOf
    rw [h]
    rfl

/-- A section that says something and is no map is refused. -/
theorem sectionOf_of_other {w : Value} (h : Value.lookup sectionKey entries = some w)
    (hblank : w.isBlankValue = false) (hmap : ∀ inner, w ≠ .map inner) :
    ∃ detail, sectionOf p entries = .error (SettingsFile.problem p detail) := by
  unfold sectionOf
  rw [h]
  simp only [hblank]
  cases w with
  | map inner => exact absurd rfl (hmap inner)
  | _ => exact ⟨_, rfl⟩

/-- What is neither null nor a map is to be refused, as a section. -/
theorem sectionAsIntended_of_other {w : Value} {reading : Reading Settings} (hnull : w ≠ .null)
    (hmap : ∀ inner, w ≠ .map inner) :
    SectionAsIntended p (some w) reading ↔
      ∃ detail, reading = .error (SettingsFile.problem p detail) := by
  cases w with
  | null => exact absurd rfl hnull
  | map inner => exact absurd rfl (hmap inner)
  | _ => exact Iff.rfl

/-- A section is read as is intended just if it is not hollow, and no setting in it is null where the
others are acceptable. -/
theorem section_asIntended_iff :
    SectionAsIntended p (Value.lookup sectionKey entries)
        (sectionOf p entries >>= fun inner => ofSection p inner) ↔
      ∀ w, Value.lookup sectionKey entries = some w →
        ¬ IsHollow w ∧
          ∀ inner, w = .map inner → HasNullKey inner → ∀ settings, ¬ Gives inner settings := by
  cases hw : Value.lookup sectionKey entries with
  | none =>
    rw [sectionOf_of_none hw]
    exact iff_of_true (ofSection_nil p) nofun
  | some w =>
    simp only [Option.some.injEq, forall_eq']
    by_cases hmap : ∃ inner, w = .map inner
    · obtain ⟨inner, rfl⟩ := hmap
      have hfull : ¬ IsHollow (.map inner) := fun hhollow => hhollow.2.2 inner rfl
      rw [sectionOf_of_map hw, and_iff_right hfull]
      simp only [Value.map.injEq, forall_eq']
      exact ofSection_asIntended_iff
    · have hmap : ∀ inner, w ≠ .map inner := fun inner heq => hmap ⟨inner, heq⟩
      rw [and_iff_left fun inner heq => absurd heq (hmap inner)]
      cases hblank : w.isBlankValue with
      | true =>
        rw [sectionOf_of_blank hw hblank]
        by_cases hnull : w = .null
        · subst hnull
          exact iff_of_true (ofSection_nil p) fun hhollow => hhollow.2.1 rfl
        · -- The defaults are read although a problem is to be told.
          rw [sectionAsIntended_of_other hnull hmap]
          refine iff_of_false ?_ fun hfull => hfull ⟨hblank, hnull, hmap⟩
          rintro ⟨detail, hread⟩
          cases (ofSection_nil p).symm.trans hread
      | false =>
        have hnull : w ≠ .null := by
          rintro rfl
          cases hblank
        obtain ⟨detail, hsection⟩ := sectionOf_of_other (p := p) hw hblank hmap
        rw [hsection, sectionAsIntended_of_other hnull hmap]
        refine iff_of_true ⟨detail, rfl⟩ fun hhollow => ?_
        cases hblank.symm.trans hhollow.1

/-! ## §4. Files. -/

/-- The value of the section in the value of a file. -/
def sectionValue : Value → Option Value
  | .map entries => Value.lookup sectionKey entries
  | _ => none

/-- **A file is read as is intended just if its section is not one of the values that are wrongly
taken for an empty one, and no setting is null where the others are acceptable.** -/
theorem read_asIntended_iff {bs : List UInt8} {v : Value}
    (hvalue : SettingsFile.valueOf p bs = .ok v) :
    AsIntended p v (read p (.octets bs)) ↔
      ∀ w, sectionValue v = some w →
        ¬ IsHollow w ∧
          ∀ inner, w = .map inner → HasNullKey inner → ∀ settings, ¬ Gives inner settings := by
  unfold read
  rw [SettingsFile.entries_octets, hvalue]
  cases v with
  | null => exact iff_of_true (ofSection_nil p) nofun
  | map entries => exact section_asIntended_iff
  | _ => exact iff_of_true ⟨_, rfl⟩ nofun

/-- The place of a settings file. -/
def somePath : Path := ⟨["T", "settings.yaml"]⟩

/-- One setting of its own, and the others by default. -/
theorem read_one_asIntended :
    AsIntended somePath (.map [(.text "ttlGrammar", .map [(.text "filePrefix", .text "tpl")])])
      (read somePath (.octets (Text.encodeUtf8 "ttlGrammar:\n  filePrefix: tpl\n"))) := by
  have hvalue : SettingsFile.valueOf somePath
      (Text.encodeUtf8 "ttlGrammar:\n  filePrefix: tpl\n") =
        .ok (.map [(.text "ttlGrammar", .map [(.text "filePrefix", .text "tpl")])]) := by
    cbv
  refine (read_asIntended_iff hvalue).2 fun w hw => ?_
  cases hw
  refine ⟨fun hhollow => hhollow.2.2 _ rfl, fun inner heq hnull => ?_⟩
  cases heq
  obtain ⟨key, hkey, hnull⟩ := hnull
  simp only [settingKeys, List.mem_cons, List.not_mem_nil, or_false] at hkey
  rcases hkey with rfl | rfl | rfl | rfl <;> cases hnull

/-- A section that is false is read as an empty one, and a null as the text "None". -/
theorem not_read_asIntended :
    (∃ v, SettingsFile.valueOf somePath (Text.encodeUtf8 "ttlGrammar: false\n") = .ok v ∧
      ¬ AsIntended somePath v
        (read somePath (.octets (Text.encodeUtf8 "ttlGrammar: false\n")))) ∧
    ∃ v, SettingsFile.valueOf somePath (Text.encodeUtf8 "ttlGrammar:\n  filePrefix:\n") = .ok v ∧
      ¬ AsIntended somePath v
        (read somePath (.octets (Text.encodeUtf8 "ttlGrammar:\n  filePrefix:\n"))) := by
  constructor
  · have hvalue : SettingsFile.valueOf somePath (Text.encodeUtf8 "ttlGrammar: false\n") =
        .ok (.map [(.text "ttlGrammar", .bool false)]) := by
      cbv
    have hread : read somePath (.octets (Text.encodeUtf8 "ttlGrammar: false\n")) = .ok {} := by
      unfold read
      rw [SettingsFile.entries_octets, hvalue]
      exact ofSection_nil somePath
    refine ⟨_, hvalue, ?_⟩
    rintro ⟨detail, hproblem⟩
    cases hread.symm.trans hproblem
  · have hvalue : SettingsFile.valueOf somePath (Text.encodeUtf8 "ttlGrammar:\n  filePrefix:\n") =
        .ok (.map [(.text "ttlGrammar", .map [(.text "filePrefix", .null)])]) := by
      cbv
    have hread : read somePath (.octets (Text.encodeUtf8 "ttlGrammar:\n  filePrefix:\n")) =
        .ok { filePrefix := "None" } := by
      have hsection : Describes [(.text "filePrefix", .null)] { filePrefix := "None" } :=
        ⟨.float rfl, rfl, rfl, by decide, rfl, rfl⟩
      unfold read
      rw [SettingsFile.entries_octets, hvalue]
      show ofSection somePath [(.text "filePrefix", .null)] = _
      exact ofSection_eq_ok_iff.2 hsection
    refine ⟨_, hvalue, ?_⟩
    rintro ⟨hsettings, -⟩
    have hdefaults : Gives [(.text "filePrefix", .null)] {} :=
      ⟨.float rfl, rfl, rfl, by decide, rfl, rfl⟩
    have hsame : ({ filePrefix := "None" } : Settings) = {} :=
      Except.ok.inj (hread.symm.trans ((hsettings {}).2 hdefaults))
    exact absurd (congrArg Settings.filePrefix hsame) (by decide)

end QuasiGrammar.Settings
