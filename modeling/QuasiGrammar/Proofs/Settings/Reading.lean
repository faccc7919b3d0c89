import QuasiGrammar.Settings.Basic

/-
  QuasiGrammar.Proofs.Settings.Reading
  ────────────────────────────────────
  What settings that have been read say about their file.

      Settings.IsPeriod    the values that can be a quiet period
      Settings.Describes   the settings that a section stands for
      read_eq_ok_iff       a file is read as the settings that its section
                           stands for, and as nothing else
-/

namespace QuasiGrammar

/-! ## §1. Steps that can fail. -/

section Steps

variable {ε α β : Type} {x : Except ε α} {f : α → Except ε β}

theorem bind_eq_ok_iff {b : β} : (x >>= f) = .ok b ↔ ∃ a, x = .ok a ∧ f a = .ok b := by
  cases x with
  | error e => simp [bind, Except.bind]
  | ok a => simp [bind, Except.bind]

theorem bind_eq_error_iff {e : ε} :
    (x >>= f) = .error e ↔ x = .error e ∨ ∃ a, x = .ok a ∧ f a = .error e := by
  cases x with
  | error e' => simp [bind, Except.bind]
  | ok a => simp [bind, Except.bind]

end Steps

namespace Settings

/-! ## §2. The values of settings. -/

/-- The value of a setting in a section; without one it is a text. -/
def valueIn (inner : List (Value × Value)) (key initial : String) : Value :=
  (Value.lookup key inner).getD (.text initial)

/-- The value of the quiet period in a section. -/
def quietIn (inner : List (Value × Value)) : Value :=
  (Value.lookup "quietPeriod" inner).getD (.float ({} : Settings).quietPeriod)

/-- The values that can be a quiet period: the numbers that are not negative. -/
inductive IsPeriod : Value → Prop
  | int {i : Int} (h : 0 ≤ i) : IsPeriod (.int i)
  | float {x : Number.Binary64} (h : x.isNegative = false) : IsPeriod (.float x)
  | noNumber (node : Nat) : IsPeriod (.noNumber node)

theorem checkQuietPeriod_eq_ok_iff {p : Path} {v : Value} :
    checkQuietPeriod p v = .ok () ↔ IsPeriod v := by
  constructor
  · intro h
    cases v with
    | int i =>
      refine .int (Int.not_lt.1 fun hi => ?_)
      simp [checkQuietPeriod, hi] at h
    | float x =>
      refine .float (Bool.eq_false_iff.2 fun hx => ?_)
      simp [checkQuietPeriod, hx] at h
    | noNumber node => exact .noNumber node
    | _ => cases h
  · intro h
    cases h with
    | int h => simp [checkQuietPeriod, Int.not_lt.2 h]
    | float h => simp [checkQuietPeriod, h]
    | noNumber node => rfl

/-- What is no quiet period is a problem of the file. -/
theorem checkQuietPeriod_eq_error {p : Path} {v : Value} {f : Failure}
    (h : checkQuietPeriod p v = .error f) : ∃ detail, f = SettingsFile.problem p detail := by
  unfold checkQuietPeriod at h
  simp only at h
  split at h
  · split at h
    · exact ⟨_, (Except.error.inj h).symm⟩
    · cases h
  · split at h
    · exact ⟨_, (Except.error.inj h).symm⟩
    · cases h
  · cases h
  · exact ⟨_, (Except.error.inj h).symm⟩

/-! ## §3. The settings of a section. -/

/-- The section of the settings in the file at a path. -/
def HasSection (p : Path) (file : SettingsFile) (inner : List (Value × Value)) : Prop :=
  ∃ entries, file.entries p = .ok entries ∧ sectionOf p entries = .ok inner

/-- The settings that a section stands for. -/
structure Describes (inner : List (Value × Value)) (settings : Settings) : Prop where
  period : IsPeriod (quietIn inner)
  quietPeriod : secondsOf (quietIn inner) = .ok settings.quietPeriod
  scopeName : textOf (valueIn inner "scopeName" ({} : Settings).scopeName) = .ok settings.scopeName
  dotted : isDotted settings.scopeName.toList = true
  notificationSource :
    textOf (valueIn inner "notificationSource" ({} : Settings).notificationSource) =
      .ok settings.notificationSource
  filePrefix : textOf (valueIn inner "filePrefix" ({} : Settings).filePrefix) = .ok settings.filePrefix

/-- The settings of a section that no check has refused. -/
def ofPassed (inner : List (Value × Value)) (scopeName : String) : Reading Settings :=
  secondsOf (quietIn inner) >>= fun quietPeriod =>
    textOf (valueIn inner "notificationSource" ({} : Settings).notificationSource) >>=
      fun notificationSource =>
        textOf (valueIn inner "filePrefix" ({} : Settings).filePrefix) >>= fun filePrefix =>
          .ok ⟨quietPeriod, notificationSource, scopeName, filePrefix⟩

/-- The steps of reading a section, in their order. -/
theorem ofSection_eq (p : Path) (inner : List (Value × Value)) :
    ofSection p inner =
      (checkQuietPeriod p (quietIn inner) >>= fun _ =>
        textOf (valueIn inner "scopeName" ({} : Settings).scopeName) >>= fun scopeName =>
          if isDotted scopeName.toList then ofPassed inner scopeName
          else .error (SettingsFile.problem p
            ("scopeName is not a dotted identifier: " ++ scopeName))) := by
  unfold ofSection ofPassed quietIn valueIn
  refine congrArg _ (funext fun _ => congrArg _ (funext fun scopeName => ?_))
  cases h : isDotted scopeName.toList <;> rfl

theorem ofSection_eq_ok_iff {p : Path} {inner : List (Value × Value)} {settings : Settings} :
    ofSection p inner = .ok settings ↔ Describes inner settings := by
  rw [ofSection_eq]
  constructor
  · intro h
    obtain ⟨⟨⟩, hperiod, h⟩ := bind_eq_ok_iff.1 h
    obtain ⟨scopeName, hscope, h⟩ := bind_eq_ok_iff.1 h
    split at h
    · next hdotted =>
      obtain ⟨quietPeriod, hquiet, h⟩ := bind_eq_ok_iff.1 h
      obtain ⟨source, hsource, h⟩ := bind_eq_ok_iff.1 h
      obtain ⟨filePrefix, hbegin, h⟩ := bind_eq_ok_iff.1 h
      cases h
      exact ⟨checkQuietPeriod_eq_ok_iff.1 hperiod, hquiet, hscope, hdotted, hsource, hbegin⟩
    · cases h
  · intro h
    refine bind_eq_ok_iff.2 ⟨(), checkQuietPeriod_eq_ok_iff.2 h.period, ?_⟩
    refine bind_eq_ok_iff.2 ⟨_, h.scopeName, ?_⟩
    rw [if_pos h.dotted]
    refine bind_eq_ok_iff.2 ⟨_, h.quietPeriod, ?_⟩
    refine bind_eq_ok_iff.2 ⟨_, h.notificationSource, ?_⟩
    exact bind_eq_ok_iff.2 ⟨_, h.filePrefix, rfl⟩

theorem read_eq_ok_iff {p : Path} {file : SettingsFile} {settings : Settings} :
    read p file = .ok settings ↔ ∃ inner, HasSection p file inner ∧ Describes inner settings := by
  unfold read HasSection
  simp only [bind_eq_ok_iff, ofSection_eq_ok_iff]
  constructor
  · rintro ⟨entries, hentries, inner, hsection, hsettings⟩
    exact ⟨inner, ⟨entries, hentries, hsection⟩, hsettings⟩
  · rintro ⟨inner, ⟨entries, hentries, hsection⟩, hsettings⟩
    exact ⟨entries, hentries, inner, hsection, hsettings⟩

end Settings

end QuasiGrammar
