import QuasiGrammar.Service.Basic
import QuasiGrammar.Source.Scene

/-
  QuasiGrammar.Service.Session
  ────────────────────────────
  A service at work on a source of rules.  Once started it observes the
  source; each change arms the scheduler with the rules as they are read
  then.  A service that is stopped observes no longer and has no timer armed;
  runs that were fired go on.
-/

namespace QuasiGrammar

/-- A source of rules with a service that may observe it. -/
abbrev Session := Scene ServiceRunner

namespace Service

/-- What the service does when the rules have changed: it schedules a run, or warns that the rules
cannot be read. -/
def changed (s : Service) (held : List String) (r : ServiceRunner) : ServiceRunner :=
  let (h, result) := s.readRules held r.state
  let r := { r with state := h }
  match result with
  -- A timer that is armed stays armed, with the rules from before.
  | .error f => r.see [s.warning f]
  | .ok rules => r.schedule s.quiet rules

/-- Rules that can be read arm the timer, and others make a warning. -/
theorem changed_eq (s : Service) (held : List String) (r : ServiceRunner) :
    s.changed held r =
      match (s.readRules held r.state).2 with
      | .error f => ({ r with state := r.state.passed .rules } : ServiceRunner).see [s.warning f]
      | .ok rules =>
          ({ r with state := r.state.passed .rules } : ServiceRunner).schedule s.quiet rules := rfl

/-- The service as an observer. -/
def listener (s : Service) : Listener ServiceRunner := ⟨s.changed, Runner.cancel⟩

end Service

namespace Session

/-- A source with rules, on a host, that the service does not observe. -/
def initial (rules : List String) (h : Host) : Session :=
  Scene.initial rules [] (Runner.initial h)

/-- Whether the service has been started and not stopped. -/
def started (x : Session) : Bool := x.subscription.isSome

/-- The host of the service. -/
def host (x : Session) : Host := x.service.state

/-- Changes what the host will do. -/
def withHost (x : Session) (f : Host → Host) : Session :=
  { x with service := { x.service with state := f x.service.state } }

/-- Forgets what was seen. -/
def forget (x : Session) : Session := { x with service := x.service.forget }

/-- Starts the service, unless it has been started. -/
def start (s : Service) (x : Session) : Except Failure Session :=
  if x.started then .error (.defect .alreadyStarted) else .ok (Scene.act s.listener .start x)

/-- The handle that the service observes with. -/
def handleDisposed (x : Session) : Bool := x.subscription.any x.observers.isDisposed

/-- Lets some milliseconds pass. -/
def advance (s : Service) (ms : Nat) (x : Session) : Session :=
  { x with service := x.service.advance s.action x.service.rounds ms }

/-- Lets time pass until the scheduler is idle. -/
def waitIdle (s : Service) (x : Session) : Session :=
  { x with service := x.service.waitIdle s.action x.service.rounds }

/-- Rebuilds the grammar beside the scheduler, and gives the result. -/
def rebuild (s : Service) (rules : List String) (x : Session) :
    Session × Option (Except Failure String) :=
  let r := x.service.doAside s.action rules x.service.rounds
  ({ x with service := r }, r.aside)

end Session

end QuasiGrammar
