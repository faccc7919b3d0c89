import Mathlib
import QuasiGrammar.Proofs.Document.Built

/-
  QuasiGrammar.Proofs.Document.ScopeName
  ──────────────────────────────────────
  **Settings and schema tell scope names apart by one line feed at the end.**

  The settings take a scope name that is dotted from its beginning to its end.
  The schema searches a scope name for the same expression between a beginning
  and an end, and finds an end before a last line feed as well.  All other names
  are accepted by both or by neither.
-/

namespace QuasiGrammar

open Rule (DottedName)

/-! ## §1. Dotted names, with and without a line feed. -/

/-- A dotted name, and one line feed after it. -/
def DottedLine (s : String) : Prop := ∃ name, DottedName name ∧ s.toList = name ++ ['\n']

/-- No dotted name ends in a line feed. -/
theorem DottedLine.not_dottedName {s : String} (h : DottedLine s) : ¬ DottedName s.toList := by
  obtain ⟨name, -, hs⟩ := h
  intro hdotted
  have hfeed : '\n' ∉ s.toList := hdotted.notMem rfl (by decide) (by decide)
  exact hfeed (by rw [hs]; exact List.mem_append_right _ List.mem_cons_self)

theorem foundIn_dotted_iff {s : String} :
    TextForm.dotted.FoundIn s ↔ DottedName s.toList ∨ DottedLine s := by
  constructor
  · rintro ⟨name, hname, rfl | hs⟩
    · exact .inl hname
    · exact .inr ⟨name, hname, hs⟩
  · rintro (hname | ⟨name, hname, hs⟩)
    · exact ⟨_, hname, .inl rfl⟩
    · exact ⟨name, hname, .inr hs⟩

/-! ## §2. What the settings say. -/

namespace Settings

variable {p : Path} {file : SettingsFile} {inner : List (Value × Value)} {s : String}

/-- What a section holds beside the scope name can be taken as settings. -/
structure OthersUsable (inner : List (Value × Value)) : Prop where
  period : IsPeriod (quietIn inner)
  quietPeriod : ∃ seconds, secondsOf (quietIn inner) = .ok seconds
  notificationSource : ∃ source,
    textOf (valueIn inner "notificationSource" ({} : Settings).notificationSource) = .ok source
  filePrefix : ∃ start, textOf (valueIn inner "filePrefix" ({} : Settings).filePrefix) = .ok start

theorem HasSection.read_eq (h : HasSection p file inner) : read p file = ofSection p inner := by
  obtain ⟨entries, hentries, hsection⟩ := h
  show (file.entries p >>= fun entries => sectionOf p entries >>= ofSection p) = _
  rw [hentries]
  show (sectionOf p entries >>= ofSection p) = _
  rw [hsection]
  rfl

/-- The text of a scope name that is a text. -/
theorem textOf_scopeName (hs : Value.lookup "scopeName" inner = some (.text s)) :
    textOf (valueIn inner "scopeName" ({} : Settings).scopeName) = .ok s := by
  rw [valueIn, hs]
  rfl

/-- A dotted scope name is taken as it is. -/
theorem exists_read_of_dotted (h : HasSection p file inner) (hothers : OthersUsable inner)
    (hs : Value.lookup "scopeName" inner = some (.text s)) (hdotted : DottedName s.toList) :
    ∃ settings, read p file = .ok settings ∧ settings.scopeName = s := by
  obtain ⟨seconds, hseconds⟩ := hothers.quietPeriod
  obtain ⟨source, hsource⟩ := hothers.notificationSource
  obtain ⟨start, hstart⟩ := hothers.filePrefix
  refine ⟨⟨seconds, source, s, start⟩, ?_, rfl⟩
  rw [h.read_eq]
  exact ofSection_eq_ok_iff.2
    { period := hothers.period
      quietPeriod := hseconds
      scopeName := textOf_scopeName hs
      dotted := Rule.isDotted_iff.2 hdotted
      notificationSource := hsource
      filePrefix := hstart }

/-- Another scope name is what the file is refused for. -/
theorem read_of_not_dotted (h : HasSection p file inner) (hothers : OthersUsable inner)
    (hs : Value.lookup "scopeName" inner = some (.text s)) (hdotted : ¬ DottedName s.toList) :
    read p file =
      .error (SettingsFile.problem p ("scopeName is not a dotted identifier: " ++ s)) := by
  have hname : ¬ isDotted s.toList = true := mt Rule.isDotted_iff.1 hdotted
  rw [h.read_eq, ofSection_eq, checkQuietPeriod_eq_ok_iff.2 hothers.period, textOf_scopeName hs]
  exact if_neg hname

theorem exists_read_iff (h : HasSection p file inner) (hothers : OthersUsable inner)
    (hs : Value.lookup "scopeName" inner = some (.text s)) :
    (∃ settings, read p file = .ok settings) ↔ DottedName s.toList := by
  constructor
  · rintro ⟨settings, hread⟩
    by_contra hdotted
    cases hread.symm.trans (read_of_not_dotted h hothers hs hdotted)
  · intro hdotted
    obtain ⟨settings, hread, -⟩ := exists_read_of_dotted h hothers hs hdotted
    exact ⟨settings, hread⟩

end Settings

/-! ## §3. Settings and schema. -/

/-- **Settings and schema tell scope names apart by one line feed at the end.**  A settings file
whose scope name is a text, and whose other settings can be used, is read just if the text is a
dotted name.  The schema lets the default document under this scope name pass, with the patterns of
any rules, just if the text is a dotted name or one with a line feed after it.  So the two agree on
all texts but those last ones. -/
theorem settings_agree_with_schema_iff {p : Path} {file : SettingsFile}
    {inner : List (Value × Value)} {s : String} (hsection : Settings.HasSection p file inner)
    (hothers : Settings.OthersUsable inner)
    (hs : Value.lookup "scopeName" inner = some (.text s)) {patterns : List Pattern}
    (hpatterns : ∀ q ∈ patterns, ∃ engine rule, Rule.compile engine rule = .ok q) :
    ((∃ settings, Settings.read p file = .ok settings) ↔ DottedName s.toList) ∧
      (Document.check { patterns := patterns, scopeName := s } = .ok () ↔
        DottedName s.toList ∨ DottedLine s) ∧
      (((∃ settings, Settings.read p file = .ok settings) ↔
          Document.check { patterns := patterns, scopeName := s } = .ok ()) ↔
        ¬ DottedLine s) := by
  have hread := Settings.exists_read_iff hsection hothers hs
  have hcheck : Document.check { patterns := patterns, scopeName := s } = .ok () ↔
      DottedName s.toList ∨ DottedLine s := by
    have hname : "language-babel-extension" ≠ "" := by decide
    rw [Document.check_of_compiled hname rfl hpatterns, foundIn_dotted_iff]
  refine ⟨hread, hcheck, ?_⟩
  rw [hread, hcheck]
  constructor
  · intro hagree hline
    exact hline.not_dottedName (hagree.2 (.inr hline))
  · intro hline
    exact ⟨.inl, fun h => h.resolve_right hline⟩

/-- A settings file with a scope name in quotes. -/
def quotedScopeFile (name : String) : SettingsFile :=
  .octets (Text.encodeUtf8 ("ttlGrammar:\n  scopeName: \"" ++ name ++ "\"\n"))

/-- The section of such a file. -/
def scopeSection (name : String) : List (Value × Value) := [(.text "scopeName", .text name)]

theorem othersUsable_scopeSection (name : String) : Settings.OthersUsable (scopeSection name) where
  period := .float (by decide)
  quietPeriod := ⟨_, rfl⟩
  notificationSource := ⟨_, rfl⟩
  filePrefix := ⟨_, rfl⟩

/-- Both accept a dotted name, and neither one with two dots in a row. -/
theorem settings_agree_with_schema_dots :
    (∃ settings, Settings.read ⟨["T", "settings.yaml"]⟩ (quotedScopeFile "a.b") = .ok settings) ∧
      Document.check { patterns := [Rule.pattern ⟨.literal "b", "s"⟩], scopeName := "a.b" } =
        .ok () ∧
      (¬ ∃ settings,
        Settings.read ⟨["T", "settings.yaml"]⟩ (quotedScopeFile "a..b") = .ok settings) ∧
      Document.check { patterns := [Rule.pattern ⟨.literal "b", "s"⟩], scopeName := "a..b" } ≠
        .ok () := by
  have hsection : Settings.HasSection ⟨["T", "settings.yaml"]⟩ (quotedScopeFile "a.b")
      (scopeSection "a.b") :=
    ⟨[(.text "ttlGrammar", .map (scopeSection "a.b"))], by cbv, rfl⟩
  have hsection' : Settings.HasSection ⟨["T", "settings.yaml"]⟩ (quotedScopeFile "a..b")
      (scopeSection "a..b") :=
    ⟨[(.text "ttlGrammar", .map (scopeSection "a..b"))], by cbv, rfl⟩
  have hpatterns : ∀ q ∈ [Rule.pattern ⟨.literal "b", "s"⟩],
      ∃ engine rule, Rule.compile engine rule = .ok q :=
    List.forall_mem_singleton.2 ⟨none, "b:s", by decide +kernel⟩
  have hdotted : DottedName "a.b".toList := Rule.isDotted_iff.1 (by decide)
  have hdots : ¬ DottedName "a..b".toList := mt Rule.isDotted_iff.2 (by decide)
  have hfeed : '\n' ∉ "a..b".toList := by decide
  obtain ⟨hread, hcheck, -⟩ := settings_agree_with_schema_iff hsection
    (othersUsable_scopeSection "a.b") rfl hpatterns
  obtain ⟨hread', hcheck', -⟩ := settings_agree_with_schema_iff hsection'
    (othersUsable_scopeSection "a..b") rfl hpatterns
  refine ⟨hread.2 hdotted, hcheck.2 (.inl hdotted), mt hread'.1 hdots, mt hcheck'.1 ?_⟩
  rintro (h | ⟨name, -, h⟩)
  · exact hdots h
  · exact hfeed (by rw [h]; exact List.mem_append_right _ List.mem_cons_self)

/-- The settings refuse a dotted name with a line feed after it, and the schema accepts it. -/
theorem settings_disagree_on_line_feed :
    Settings.HasSection ⟨["T", "settings.yaml"]⟩ (quotedScopeFile "a\\n") (scopeSection "a\n") ∧
      Settings.read ⟨["T", "settings.yaml"]⟩ (quotedScopeFile "a\\n") =
        .error (SettingsFile.problem ⟨["T", "settings.yaml"]⟩
          "scopeName is not a dotted identifier: a\n") ∧
      Document.check { patterns := [], scopeName := "a\n" } = .ok () := by
  refine ⟨⟨[(.text "ttlGrammar", .map (scopeSection "a\n"))], by cbv, rfl⟩, ?_, ?_⟩
  · decide +kernel
  · decide +kernel

end QuasiGrammar
