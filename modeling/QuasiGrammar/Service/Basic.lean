import QuasiGrammar.Debounce.Runner
import QuasiGrammar.Publish.Host
import QuasiGrammar.Settings.Basic

/-
  QuasiGrammar.Service.Basic
  ──────────────────────────
  The service that keeps the published grammar in step with the rules.  When
  the rules change it reads them, waits for a quiet period, builds the document
  of the rules that were read last, and publishes it.

  The reading of the rules and the building of the document can fail; then the
  user is told, and the grammar that is published stays as it is.
-/

namespace QuasiGrammar

/-! ## §1. The service and its work. -/

/-- Where the rules are read. -/
inductive RuleOrigin where
  /-- The source itself holds them. -/
  | held
  /-- They stand under a key of the settings file at a path, which is read each time. -/
  | file (key : String)
  deriving DecidableEq, Repr

/-- A service: its settings, the engine that judges regular expressions, the grammar directory, the
place of the settings file, and where its rules are read. -/
structure Service where
  settings : Settings
  engine : Option Engine
  directory : GrammarDirectory
  settingsPath : Path
  origin : RuleOrigin

namespace Service

/-- The store of a service. -/
def store (s : Service) : Store :=
  ⟨s.directory, s.settings.scopeName, s.settings.filePrefix, s.settings.notificationSource⟩

/-- Builds the document of rules and publishes it. -/
def rebuild (s : Service) (rules : List String) : Work String :=
  match Document.build s.engine s.settings.scopeName rules with
  | .error f => throw f
  | .ok text => s.store.publish text

/-- A warning of the service. -/
def warning (s : Service) (f : Failure) : Event :=
  .noticed ⟨.warning, s.settings.notificationSource, f.message⟩

/-- The quiet period in milliseconds; a negative one is over before it begins, one that is no number
at once, and an infinite one never. -/
def quiet (s : Service) : Option Int :=
  match s.settings.quietPeriod with
  -- Not a number compares with nothing, so the timer is due as soon as it is looked at.
  | .nan => some 0
  | x => x.toMillis?

/-- Reads the rules; those that the source holds are given. -/
def readRules (s : Service) (held : List String) (h : Host) :
    Host × Except Failure (List String) :=
  -- A planned failure is used up by the attempt, whether or not the rules are held.
  (h.passed .rules,
    match h.failure? .rules s.settingsPath with
    | some f => .error f
    | none =>
        match s.origin with
        | .held => .ok held
        | .file key =>
            Settings.readRules s.settingsPath key (SettingsFile.find h.tree s.settingsPath))

/-! ## §2. Runs. -/

/-- The rest of a run that waits for the answer to a call. -/
abbrev Waiting := Pending (Except Failure String)

/-- What a program has come to, as a stretch of work. -/
def stretch : Host × List Event × Progress (Except Failure String) →
    Stretch String Host Waiting Event
  | (h, events, .finished r) => ⟨h, events, .ended r⟩
  | (h, events, .waiting ms p) => ⟨h, events, .paused ms p⟩

/-- A run rebuilds the grammar; a failure that the user has not been told of makes a warning. -/
def action (s : Service) : Action (List String) String Host Waiting Event where
  start rules h := stretch ((s.rebuild rules).run.proceed h)
  resume p h := stretch (p.resume h)
  warn := s.warning

end Service

/-- The scheduler of a service, with its clock and its host. -/
abbrev ServiceRunner := Runner (List String) String Host Service.Waiting Event

namespace ServiceRunner

/-- A number of rounds in which all work comes to its end: each run makes a call for each file that
it deletes, for which earlier runs may have written new ones, and a few more.  A call takes two
rounds. -/
def rounds (r : ServiceRunner) : Nat :=
  let works := r.scheduler.runs.length + r.agenda.size + 2
  4 * works * (r.state.tree.entries.length + works + 10) + 8

end ServiceRunner

end QuasiGrammar
