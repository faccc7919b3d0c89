import QuasiGrammar.Document
import QuasiGrammar.Settings.File

/-
  QuasiGrammar.Settings.Basic
  ───────────────────────────
  The settings of the service, and the rules, as a settings file gives them.

      ttlGrammar              a map with the settings that are not the default
      taggedTemplateGrammar   the list of rules; a file may use another key

  A file is refused for the first thing that is wrong with it: the quiet period
  must be a number that is not negative, and the scope name a dotted
  identifier.  Other settings are taken as the text of whatever stands there.
-/

namespace QuasiGrammar

open Number

/-! ## §1. Settings. -/

/-- The settings of the service: how long it waits after a change, in seconds, the name under
which it speaks to the user, the scope of its grammar, and the text that the names of its files
begin with. -/
structure Settings where
  quietPeriod : Binary64 := .ofInt 10
  notificationSource : String := "language-babel"
  scopeName : String := Document.defaultScope
  filePrefix : String := "ttl"
  deriving DecidableEq, Repr

namespace Settings

/-- The key of the settings. -/
def sectionKey : String := "ttlGrammar"

/-- The key of the rules. -/
def rulesKey : String := "taggedTemplateGrammar"

/-- A part of the work on a settings file. -/
abbrev Reading := Except Failure

/-- The section of the settings; a section that says nothing is empty. -/
def sectionOf (p : Path) (entries : List (Value × Value)) : Reading (List (Value × Value)) :=
  match Value.lookup sectionKey entries with
  | none => .ok []
  | some v =>
      if v.isBlankValue then .ok []
      else
        match v with
        | .map inner => .ok inner
        | _ => .error (SettingsFile.problem p ("'" ++ sectionKey ++ "' must be a mapping"))

/-- Refuses a quiet period that is no number, or is negative. -/
def checkQuietPeriod (p : Path) (v : Value) : Reading Unit :=
  let refused (negative : Bool) : Reading Unit :=
    if negative then .error (SettingsFile.problem p "quietPeriod must not be negative") else .ok ()
  match v with
  | .int i => refused (i < 0)
  | .float x => refused x.isNegative
  | .noNumber _ => .ok ()
  | _ => .error (SettingsFile.problem p "quietPeriod must be a number of seconds")

/-- A number of seconds; an integer may be out of range. -/
def secondsOf (v : Value) : Reading Binary64 :=
  match v with
  | .float x => .ok x
  | .noNumber _ => .ok .nan
  | .int i =>
      match Binary64.ofInt? i with
      | some x => .ok x
      | none => .error (.defect .numberTooLarge)
  | _ => .ok (.zero false)

/-- The text of a setting. -/
def textOf (v : Value) : Reading String := v.plainText.mapError .defect

/-- The settings in the section of the file at a path. -/
def ofSection (p : Path) (entries : List (Value × Value)) : Reading Settings := do
  let base : Settings := {}
  let text (key initial : String) : Reading String :=
    textOf ((Value.lookup key entries).getD (.text initial))
  let quiet := (Value.lookup "quietPeriod" entries).getD (.float base.quietPeriod)
  -- The first thing that is wrong decides: the period is checked before the scope is read.
  checkQuietPeriod p quiet
  let scopeName ← text "scopeName" base.scopeName
  if !isDotted scopeName.toList then
    throw (SettingsFile.problem p ("scopeName is not a dotted identifier: " ++ scopeName))
  -- An integer that is too large for a number of seconds passes the check and fails here.
  let quietPeriod ← secondsOf quiet
  let notificationSource ← text "notificationSource" base.notificationSource
  let filePrefix ← text "filePrefix" base.filePrefix
  pure ⟨quietPeriod, notificationSource, scopeName, filePrefix⟩

/-- The settings in the file at a path. -/
def read (p : Path) (file : SettingsFile) : Reading Settings := do
  ofSection p (← sectionOf p (← file.entries p))

/-! ## §2. Rules. -/

/-- The texts of a list, or the first value in it that is no text. -/
def textItems : List Value → Except Value (List String)
  | [] => .ok []
  | .text s :: rest => (textItems rest).map (s :: ·)
  | v :: _ => .error v

/-- A list of values is read as texts exactly if it holds these texts and nothing else. -/
theorem textItems_eq_ok_iff {items : List Value} {rules : List String} :
    textItems items = .ok rules ↔ items = rules.map .text := by
  induction items generalizing rules with
  | nil => cases rules <;> simp [textItems]
  | cons v items ih =>
    cases v with
    | text s =>
      cases rules with
      | nil => cases h : textItems items <;> simp [textItems, h, Except.map]
      | cons r rules =>
        cases h : textItems items with
        | error w => simp [textItems, h, Except.map, ← ih]
        | ok ss =>
          have : ss = rules ↔ items = rules.map .text := by rw [← ih, h]; simp
          simp [textItems, h, Except.map, this]
    | _ => cases rules <;> simp [textItems]

/-- The rules under a key of the file at a path. -/
def readRules (p : Path) (key : String) (file : SettingsFile) : Reading (List String) := do
  match Value.lookup key (← file.entries p) with
  -- A key that says nothing stands for no rules.
  | none | some .null => pure []
  | some (.list items) =>
      match textItems items with
      | .ok rules => pure rules
      | .error v =>
          let shown ← v.shownText.mapError .defect
          throw (SettingsFile.problem p ("'" ++ key ++ "' entries must be strings, got " ++ shown))
  | some _ => throw (SettingsFile.problem p ("'" ++ key ++ "' must be a list"))

end Settings

end QuasiGrammar
