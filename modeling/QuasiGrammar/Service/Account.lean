import QuasiGrammar.Debounce.Records
import QuasiGrammar.Publish.Trace
import QuasiGrammar.Service.Session

/-
  QuasiGrammar.Service.Account
  ────────────────────────────
  A service with its books: a record of each run that has begun, and the
  failures that kept the rules from being read.  All that can happen to the
  scheduler of a service is a list of steps, and besides them anybody may change
  the host at any time.
-/

namespace QuasiGrammar

/-! ## §1. Steps. -/

/-- A bit of what happens to the scheduler of a service, or to its host. -/
inductive ServiceStep where
  /-- The rules have changed; the source may hold these. -/
  | changed (held : List String)
  | cancel
  | tick (t : Tick)
  /-- The clock goes to a time. -/
  | clock (time : Nat)
  /-- Somebody else changes the host. -/
  | host (change : Host → Host)

namespace Service

/-- One step. -/
def step (s : Service) (r : ServiceRunner) : ServiceStep → ServiceRunner
  | .changed held => s.changed held r
  | .cancel => r.cancel
  | .tick t => r.tick s.action t
  | .clock time => { r with clock := time }
  | .host change => { r with state := change r.state }

/-- Steps one after another. -/
def steps (s : Service) (r : ServiceRunner) (ms : List ServiceStep) : ServiceRunner :=
  ms.foldl s.step r

theorem steps_append (s : Service) (r : ServiceRunner) (before after : List ServiceStep) :
    s.steps r (before ++ after) = s.steps (s.steps r before) after := List.foldl_append

end Service

/-! ## §2. Books. -/

/-- The record of a run of a service. -/
abbrev RunRecord := Record (List String) String Event

/-- A service with a record of each run, and the failures to read the rules. -/
structure Account where
  service : ServiceRunner
  runs : List RunRecord
  unread : List Failure

namespace Account

/-- Nothing has happened. -/
def initial (h : Host) : Account := ⟨Runner.initial h, [], []⟩

/-- The failure to read the rules in a step. -/
def unreadBy (s : Service) (r : ServiceRunner) : ServiceStep → Option Failure
  | .changed held => failureOf (s.readRules held r.state).2
  | _ => none

/-- The records after a step. -/
def runsAfter (s : Service) (r : ServiceRunner) (runs : List RunRecord) :
    ServiceStep → List RunRecord
  | .tick t => r.notedBy s.action runs t
  | _ => runs

/-- One step, with its entries in the books. -/
def step (s : Service) (x : Account) (m : ServiceStep) : Account where
  service := s.step x.service m
  runs := runsAfter s x.service x.runs m
  unread := x.unread ++ (unreadBy s x.service m).toList

/-- Steps one after another. -/
def steps (s : Service) (x : Account) (ms : List ServiceStep) : Account := ms.foldl (step s) x

/-- The books do not change what happens. -/
theorem service_steps (s : Service) (x : Account) (ms : List ServiceStep) :
    (x.steps s ms).service = s.steps x.service ms := by
  induction ms generalizing x with
  | nil => rfl
  | cons m rest ih => exact ih (x.step s m)

end Account

end QuasiGrammar
