import QuasiGrammar.Proofs.Rule.Sense
import QuasiGrammar.Proofs.Schema.Fit
import QuasiGrammar.Proofs.Settings.Reading

/-
  QuasiGrammar.Proofs.Document.Built
  ──────────────────────────────────
  **Rules that compile always build.**

  Rules and settings are read by one grammar, and the schema is another.  What
  the first lets through has the form that the second asks for:

      isPattern_toJson       the pattern of a scope is one of the schema's patterns
      isDocument_toJson_iff  of a document with such patterns, only the scope name
                             is left to ask about
      build_eq_ok_iff        so rules that compile build if the scope name is dotted

  A scope name from a settings file is dotted (`Settings.Describes`), and nothing
  but the first rule that does not compile can stop a build (`builds_iff_compiles`).
-/

namespace QuasiGrammar

open Text

/-! ## §1. All rules, or the first that does not compile. -/

namespace Rule

variable {engine : Option Engine} {rules : List String}

/-- A rule has a pattern. -/
def Compiles (engine : Option Engine) (rule : String) : Prop := ∃ p, compile engine rule = .ok p

instance : DecidablePred (Compiles engine) := fun rule =>
  decidable_of_iff ((compile engine rule).isOk = true) <| by
    unfold Compiles
    cases compile engine rule <;> simp [Except.isOk, Except.toBool]

/-- The first rule that does not compile, in the order of the list, fails with a failure. -/
def FirstFailure (engine : Option Engine) (rules : List String) (f : Failure) : Prop :=
  ∃ before rule after, rules = before ++ rule :: after ∧ (∀ r ∈ before, Compiles engine r) ∧
    compile engine rule = .error f

theorem compileAll_eq_ok_iff {patterns : List Pattern} :
    compileAll engine rules = .ok patterns ↔ rules.map (compile engine) = patterns.map .ok := by
  induction rules generalizing patterns with
  | nil =>
    rw [List.map_nil, eq_comm, List.nil_eq, List.map_eq_nil_iff, eq_comm]
    exact ⟨fun h => (Except.ok.inj h).symm, fun h => congrArg _ h.symm⟩
  | cons rule rest ih =>
    rw [List.map_cons, compileAll]
    cases patterns with
    | nil =>
      cases compile engine rule with
      | error f => simp
      | ok p => cases compileAll engine rest <;> simp
    | cons q qs =>
      rw [List.map_cons, List.cons.injEq, ← ih]
      cases compile engine rule with
      | error f => simp
      | ok p => cases compileAll engine rest <;> simp

theorem compileAll_eq_error_iff {f : Failure} :
    compileAll engine rules = .error f ↔ FirstFailure engine rules f := by
  induction rules with
  | nil => simp [compileAll, FirstFailure]
  | cons rule rest ih =>
    rw [compileAll]
    cases hrule : compile engine rule with
    | error f' =>
      constructor
      · rintro ⟨⟩
        exact ⟨[], rule, rest, rfl, by simp, hrule⟩
      · rintro ⟨_ | ⟨_, before⟩, _, _, hrules, hbefore, hfails⟩
        · cases hrules
          cases hrule.symm.trans hfails
          rfl
        · cases hrules
          obtain ⟨p, hp⟩ := hbefore rule (.head _)
          cases hrule.symm.trans hp
    | ok p =>
      have hrest : compileAll engine rest = .error f ↔ FirstFailure engine (rule :: rest) f := by
        rw [ih]
        constructor
        · rintro ⟨before, bad, after, rfl, hbefore, hfails⟩
          exact ⟨rule :: before, bad, after, rfl, List.forall_mem_cons.2 ⟨⟨p, hrule⟩, hbefore⟩,
            hfails⟩
        · rintro ⟨_ | ⟨_, before⟩, bad, after, hrules, hbefore, hfails⟩
          · cases hrules
            cases hrule.symm.trans hfails
          · cases hrules
            exact ⟨before, bad, after, rfl, (List.forall_mem_cons.1 hbefore).2, hfails⟩
      rw [← hrest]
      cases compileAll engine rest <;> simp

/-- Rules all have patterns, or one of them is the first that has none. -/
theorem exists_compileAll_iff :
    (∃ patterns, compileAll engine rules = .ok patterns) ↔
      ∀ rule ∈ rules, Compiles engine rule := by
  constructor
  · rintro ⟨patterns, h⟩ rule hrule
    have hmem : compile engine rule ∈ patterns.map .ok :=
      compileAll_eq_ok_iff.1 h ▸ List.mem_map_of_mem hrule
    obtain ⟨p, -, hp⟩ := List.mem_map.1 hmem
    exact ⟨p, hp.symm⟩
  · intro h
    cases hall : compileAll engine rules with
    | ok patterns => exact ⟨patterns, rfl⟩
    | error f =>
      obtain ⟨before, rule, after, rfl, -, hfails⟩ := compileAll_eq_error_iff.1 hall
      obtain ⟨p, hp⟩ := h rule (by simp)
      cases hp.symm.trans hfails

end Rule

/-! ## §2. What a rule fails with. -/

/-- A text that is no rule has not the form of one, or has a literal with a bare quote. -/
theorem Rule.parse_eq_error {rule : String} {p : Problem} (h : parse rule = .error p) :
    p = .invalidSpec rule ∨ ∃ literal, p = .invalidLiteral rule literal := by
  obtain hsplit | ⟨⟨subject, scope⟩, -, h⟩ := bind_eq_error_iff.1 h
  · unfold split at hsplit
    split at hsplit
    · exact .inl (Except.error.inj hsplit).symm
    · cases hsplit
  · dsimp only at h
    split at h
    · exact .inl (Except.error.inj h).symm
    · obtain hmatch | ⟨_, -, h⟩ := bind_eq_error_iff.1 h
      · unfold parseMatch at hmatch
        split at hmatch
        · split at hmatch
          · exact .inl (Except.error.inj hmatch).symm
          · cases hmatch
        · split at hmatch
          · exact .inr ⟨_, (Except.error.inj hmatch).symm⟩
          · cases hmatch
      · cases h

/-- An engine's verdict on a rule is a problem of the rule, or what the engine broke down with. -/
theorem Rule.judge_eq_error {engine : Option Engine} {rule : String} {m : Match} {f : Failure}
    (h : judge engine rule m = .error f) :
    (∃ source detail, f = .fresh (.malformedRegex rule source detail)) ∨
      ∃ ask source, engine = some ask ∧ ask source = .failed f := by
  unfold judge at h
  split at h
  · cases h
  · split at h
    · cases h
    · split at h
      · cases h
      · cases h
      · exact .inl ⟨_, _, (Except.error.inj h).symm⟩
      · next hfailed => exact .inr ⟨_, _, rfl, Except.error.inj h ▸ hfailed⟩

/-- What a rule fails with is a problem of its own, or what its engine broke down with. -/
theorem Rule.compile_eq_error {engine : Option Engine} {rule : String} {f : Failure}
    (h : compile engine rule = .error f) :
    (f = .fresh (.invalidSpec rule) ∨ (∃ literal, f = .fresh (.invalidLiteral rule literal)) ∨
        ∃ source detail, f = .fresh (.malformedRegex rule source detail)) ∨
      ∃ ask source, engine = some ask ∧ ask source = .failed f := by
  unfold compile at h
  split at h
  · next p hparse =>
    cases h
    obtain rfl | ⟨literal, rfl⟩ := parse_eq_error hparse
    · exact .inl (.inl rfl)
    · exact .inl (.inr (.inl ⟨literal, rfl⟩))
  · split at h
    · next hjudge =>
      cases h
      obtain hbad | hfailed := judge_eq_error hjudge
      · exact .inl (.inr (.inr hbad))
      · exact .inr hfailed
    · cases h

/-! ## §3. The schema asks for no more. -/

/-- A scope does not begin with a number sign. -/
theorem Rule.ScopeForm.exists_cons {cs : List Char} (h : ScopeForm cs) :
    ∃ c rest, cs = c :: rest ∧ c ≠ '#' := by
  have hdotted : ∀ {name : List Char}, DottedName name → ∃ c rest, name = c :: rest ∧ c ≠ '#' := by
    rintro _ (⟨c, rest, rfl, hc, -⟩ | ⟨⟨c, rest, rfl, hc, -⟩, -⟩)
    · exact ⟨c, rest, rfl, by rintro rfl; cases hc⟩
    · exact ⟨c, _, rfl, by rintro rfl; cases hc⟩
  cases h with
  | whole hname => exact hdotted hname
  | part hname _ =>
    obtain ⟨c, rest, rfl, hc⟩ := hdotted hname
    exact ⟨c, _, rfl, hc⟩

/-- A capture under the number of a group. -/
theorem isCapture {group scope : String} (hgroup : TextForm.digits.FoundIn group)
    (hscope : scope ≠ "") : TextForm.digits.FoundIn group ∧
      (Pattern.capture scope).HasField "name" Json.IsName :=
  ⟨hgroup, _, rfl, scope, rfl, hscope⟩

theorem isInclusion {scope : String} (hscope : scope ≠ "") :
    (Pattern.inclusion scope).IsInclusion :=
  ⟨⟨_, rfl, scope, rfl, hscope⟩, fun _ hname => List.mem_singleton.1 hname⟩

/-- The pattern of a scope is one of the schema's patterns: none of its texts is empty. -/
theorem Rule.isPattern_toJson {source scope : String} (h : ScopeForm scope.toList) :
    (patternOf source scope).toJson.IsPattern := by
  obtain ⟨c, rest, hscope, hc⟩ := h.exists_cons
  have hname : scope ≠ "" := by
    rintro rfl
    cases hscope
  have hbase : Pattern.baseScope scope ≠ "" := by
    rw [Pattern.baseScope, hscope, List.takeWhile_cons_of_pos (by simpa using hc)]
    exact fun he => List.cons_ne_nil _ _ (String.ofList_eq_empty_iff.1 he)
  have hbegin : Pattern.beginWith source ≠ "" := by
    simp [Pattern.beginWith]
  have hend : Pattern.endRegexSource ≠ "" := by decide
  have hnested : Pattern.nestedGrammar ≠ "" := by decide
  have hfirst : TextForm.digits.FoundIn "1" := ⟨['1'], by simp [TextForm.Describes], .inl rfl⟩
  have hsecond : TextForm.digits.FoundIn "2" := ⟨['2'], by simp [TextForm.Describes], .inl rfl⟩
  exact
    { contentName := ⟨_, rfl, _, rfl, hbase⟩
      begins := ⟨_, rfl, _, rfl, hbegin⟩
      beginCaptures := ⟨_, rfl, _, rfl, List.forall_mem_cons.2 ⟨isCapture hfirst (by decide),
        List.forall_mem_singleton.2 (isCapture hsecond (by decide))⟩⟩
      ends := ⟨_, rfl, _, rfl, hend⟩
      endCaptures := ⟨_, rfl, _, rfl, List.forall_mem_singleton.2 (isCapture hfirst (by decide))⟩
      patterns := ⟨_, rfl, _, rfl, List.cons_ne_nil _ _, List.forall_mem_cons.2
        ⟨isInclusion hnested, List.forall_mem_singleton.2 (isInclusion hname)⟩⟩
      keys := fun _ hkey => hkey }

namespace Document

/-- Of a document without file types whose patterns are the schema's, the schema asks only for a
name and for a dotted scope name. -/
theorem isDocument_toJson_iff {d : Document} (hname : d.name ≠ "") (htypes : d.fileTypes = [])
    (hpatterns : ∀ p ∈ d.patterns, p.toJson.IsPattern) :
    d.toJson.IsDocument ↔ TextForm.dotted.FoundIn d.scopeName := by
  constructor
  · intro h
    obtain ⟨_, ⟨⟩, _, ⟨⟩, hscope⟩ := h.scopeName
    exact hscope
  · intro hscope
    exact
      { name := ⟨_, rfl, _, rfl, hname⟩
        comment := by
          rintro _ ⟨⟩
          exact ⟨_, rfl⟩
        scopeName := ⟨_, rfl, _, rfl, hscope⟩
        fileTypes := ⟨_, rfl, by rw [htypes, List.map_nil]⟩
        patterns := ⟨_, rfl, _, rfl, List.forall_mem_map.2 hpatterns⟩
        keys := fun _ hkey => hkey }

variable {engine : Option Engine} {scopeName : String} {rules : List String}

/-- The document of rules is the default one, with the given scope name and a pattern for each rule,
in the order of the rules. -/
theorem ofRules_eq_ok_iff {d : Document} :
    ofRules engine scopeName rules = .ok d ↔
      d = { patterns := d.patterns, scopeName := scopeName } ∧
        rules.map (Rule.compile engine) = d.patterns.map .ok := by
  rw [← Rule.compileAll_eq_ok_iff, ofRules]
  cases Rule.compileAll engine rules with
  | error f => simp
  | ok patterns =>
    simp only [Except.ok.injEq]
    constructor
    · rintro rfl
      exact ⟨rfl, rfl⟩
    · rintro ⟨hd, rfl⟩
      exact hd.symm

theorem ofRules_eq_error_iff {f : Failure} :
    ofRules engine scopeName rules = .error f ↔ Rule.FirstFailure engine rules f := by
  rw [← Rule.compileAll_eq_error_iff, ofRules]
  cases Rule.compileAll engine rules <;> simp

/-- Of a document under a name, without file types, whose patterns are those of rules, the schema
only asks whether its scope name is dotted. -/
theorem check_of_compiled {d : Document} (hname : d.name ≠ "") (htypes : d.fileTypes = [])
    (hpatterns : ∀ p ∈ d.patterns, ∃ engine rule, Rule.compile engine rule = .ok p) :
    d.check = .ok () ↔ TextForm.dotted.FoundIn d.scopeName := by
  have hform : ∀ p ∈ d.patterns, p.toJson.IsPattern := by
    intro p hp
    obtain ⟨engine, rule, hrule⟩ := hpatterns p hp
    obtain ⟨source, scope, -, hscope, rfl⟩ := Rule.means_of_compile hrule
    exact Rule.isPattern_toJson hscope
  rw [check, Schema.check_eq_ok_iff, Schema.faults_eq_nil_iff, Schema.fits_grammar,
    isDocument_toJson_iff hname htypes hform]

/-- Of the document of rules, the schema only asks whether its scope name is dotted. -/
theorem check_ofRules {d : Document} (h : ofRules engine scopeName rules = .ok d) :
    d.check = .ok () ↔ TextForm.dotted.FoundIn scopeName := by
  obtain ⟨hd, hpatterns⟩ := ofRules_eq_ok_iff.1 h
  have hname : d.name = "language-babel-extension" := by rw [hd]
  have htypes : d.fileTypes = [] := by rw [hd]
  have hscope : d.scopeName = scopeName := by rw [hd]
  rw [check_of_compiled (by rw [hname]; decide) htypes, hscope]
  intro p hp
  have hmem : .ok p ∈ rules.map (Rule.compile engine) := hpatterns ▸ List.mem_map_of_mem hp
  obtain ⟨rule, -, hrule⟩ := List.mem_map.1 hmem
  exact ⟨engine, rule, hrule⟩

/-- Rules build the text of their document, which is there if they all compile and which the schema
lets pass if the scope name is dotted. -/
theorem build_eq_ok_iff {text : String} :
    build engine scopeName rules = .ok text ↔
      ∃ d, ofRules engine scopeName rules = .ok d ∧ TextForm.dotted.FoundIn scopeName ∧
        text = d.text := by
  rw [build]
  cases hd : ofRules engine scopeName rules with
  | error f => simp
  | ok d =>
    simp only [Except.ok.injEq, exists_eq_left', ← check_ofRules hd]
    cases d.check <;> simp [eq_comm]

/-- Under a dotted scope name, there is a text just if all rules compile. -/
theorem exists_build_iff (hdotted : TextForm.dotted.FoundIn scopeName) :
    (∃ text, build engine scopeName rules = .ok text) ↔
      ∀ rule ∈ rules, Rule.Compiles engine rule := by
  simp only [← Rule.exists_compileAll_iff, build_eq_ok_iff, ofRules_eq_ok_iff,
    Rule.compileAll_eq_ok_iff]
  constructor
  · rintro ⟨text, d, ⟨-, hpatterns⟩, -⟩
    exact ⟨d.patterns, hpatterns⟩
  · rintro ⟨patterns, hpatterns⟩
    exact ⟨_, { patterns := patterns, scopeName := scopeName }, ⟨rfl, hpatterns⟩, hdotted, rfl⟩

/-- The text of rules is there only if the scope name is dotted and all rules compile. -/
theorem compiles_of_build {text : String} (h : build engine scopeName rules = .ok text) :
    TextForm.dotted.FoundIn scopeName ∧ ∀ rule ∈ rules, Rule.Compiles engine rule := by
  obtain ⟨-, -, hdotted, -⟩ := build_eq_ok_iff.1 h
  exact ⟨hdotted, (exists_build_iff hdotted).1 ⟨text, h⟩⟩

/-- Under a dotted scope name, only the first rule that does not compile stops a build. -/
theorem build_eq_error_iff (hdotted : TextForm.dotted.FoundIn scopeName) {f : Failure} :
    build engine scopeName rules = .error f ↔ Rule.FirstFailure engine rules f := by
  rw [← @ofRules_eq_error_iff engine scopeName, build]
  cases hd : ofRules engine scopeName rules with
  | error f => simp
  | ok d =>
    simp only [(check_ofRules hd).2 hdotted]
    simp

/-! ## §4. Building under the scope name of a settings file. -/

/-- **Rules that compile always build.**  Under the scope name of a settings file that has been
read, whatever the engine: there is a text just if every rule compiles, else the failure is that of
the first rule that does not.  The schema refuses no document of rules, so that a problem with the
schema can only be one that the engine itself broke down with.  A text is that of the document with
the pattern of each rule, in the order of the rules. -/
theorem builds_iff_compiles {p : Path} {file : SettingsFile} {settings : Settings}
    (hread : Settings.read p file = .ok settings) (engine : Option Engine) (rules : List String) :
    ((∃ text, build engine settings.scopeName rules = .ok text) ↔
        ∀ rule ∈ rules, Rule.Compiles engine rule) ∧
      (∀ f, build engine settings.scopeName rules = .error f ↔ Rule.FirstFailure engine rules f) ∧
      (∀ d, ofRules engine settings.scopeName rules = .ok d → d.check = .ok ()) ∧
      (∀ detail reported,
        build engine settings.scopeName rules = .error (.problem (.schema detail) reported) →
          ∃ ask source, engine = some ask ∧
            ask source = .failed (.problem (.schema detail) reported)) ∧
      ∀ text, build engine settings.scopeName rules = .ok text →
        ∃ d, ofRules engine settings.scopeName rules = .ok d ∧ text = d.text ∧
          d.scopeName = settings.scopeName ∧
          rules.map (Rule.compile engine) = d.patterns.map .ok := by
  obtain ⟨inner, -, hsettings⟩ := Settings.read_eq_ok_iff.1 hread
  have hdotted : TextForm.dotted.FoundIn settings.scopeName :=
    ⟨_, Rule.isDotted_iff.1 hsettings.dotted, .inl rfl⟩
  have herror : ∀ f, build engine settings.scopeName rules = .error f ↔
      Rule.FirstFailure engine rules f := fun f => build_eq_error_iff hdotted
  refine ⟨exists_build_iff hdotted, herror, fun d hd => (check_ofRules hd).2 hdotted,
    fun detail reported h => ?_, fun text h => ?_⟩
  · obtain ⟨before, rule, after, -, -, hfails⟩ := (herror _).1 h
    obtain (h | ⟨_, h⟩ | ⟨_, _, h⟩) | hengine := Rule.compile_eq_error hfails
    · cases h
    · cases h
    · cases h
    · exact hengine
  · obtain ⟨d, hd, -, htext⟩ := build_eq_ok_iff.1 h
    obtain ⟨hheader, hpatterns⟩ := ofRules_eq_ok_iff.1 hd
    exact ⟨d, hd, htext, by rw [hheader], hpatterns⟩

/-- A settings file with a scope name that is not the default. -/
def scopeFile : SettingsFile := .octets (encodeUtf8 "ttlGrammar:\n  scopeName: a.b\n")

/-- Rules that compile build, and of rules that do not all compile, the first bad one is told. -/
theorem builds_iff_compiles_scope :
    Settings.read ⟨["T", "settings.yaml"]⟩ scopeFile = .ok { scopeName := "a.b" } ∧
      (∃ text, build (some (Rule.onlyRefuses "(" "open group")) "a.b" ["\"a+\":x.y", "b:z#w"] =
        .ok text) ∧
      build (some (Rule.onlyRefuses "(" "open group")) "a.b" ["b:z", "b", "\"(\":x"] =
        .error (.fresh (.invalidSpec "b")) := by
  have hread : Settings.read ⟨["T", "settings.yaml"]⟩ scopeFile = .ok { scopeName := "a.b" } := by
    decide +kernel
  have hcompile : ∀ rule ∈ ["\"a+\":x.y", "b:z#w"],
      Rule.Compiles (some (Rule.onlyRefuses "(" "open group")) rule := by
    decide +kernel
  have hfirst : Rule.FirstFailure (some (Rule.onlyRefuses "(" "open group"))
      ["b:z", "b", "\"(\":x"] (.fresh (.invalidSpec "b")) :=
    ⟨["b:z"], "b", ["\"(\":x"], rfl, by decide +kernel, rfl⟩
  refine ⟨hread, ?_, ?_⟩
  · exact (builds_iff_compiles hread _ _).1.2 hcompile
  · exact ((builds_iff_compiles hread _ _).2.1 _).2 hfirst

end Document

end QuasiGrammar
