import QuasiGrammar.Debounce.Agenda
import QuasiGrammar.Debounce.Basic
import QuasiGrammar.Failure

/-
  QuasiGrammar.Debounce.Runner
  ────────────────────────────
  A scheduler with a clock and the runs that it starts.  All that happens is a
  sequence of turns.  Some turns are ready and stand in a queue, others are in
  the agenda until their time has come.  Time passes in rounds: what is due
  joins the queue, and then the turns of the queue are taken, but none of those
  that they add to it.  The clock moves only when the queue is empty, to the
  time of the first turn of the agenda.

      ring     the timer fires, unless it has been armed anew or disarmed
      enter    the first run of the queue begins, or has to wait
      wake     the first run that waits begins
      rouse    a pause is over
      resume   paused work goes on until it pauses again or ends
      retire   a run that has come to its end is forgotten
      beside   work that is no run of the scheduler begins

  A run that fails is followed by a warning, unless the user has been told of
  the failure.
-/

namespace QuasiGrammar

/-! ## §1. Actions. -/

/-- How a stretch of work stops. -/
inductive Stop (α τ : Type) where
  | ended (r : Except Failure α)
  /-- A pause of some milliseconds, and what is to be done after it. -/
  | paused (ms : Nat) (task : τ)

/-- A stretch of work between two pauses: the state after it, what was seen, and how it stops. -/
structure Stretch (α σ τ ε : Type) where
  state : σ
  events : List ε
  stop : Stop α τ

/-- What the runs of a scheduler do: how a run begins with its inputs, how it goes on after a
pause, and the warning of a failure. -/
structure Action (ι α σ τ ε : Type) where
  start : ι → σ → Stretch α σ τ ε
  resume : τ → σ → Stretch α σ τ ε
  warn : Failure → ε

/-! ## §2. The state. -/

/-- A turn.  Paused work is a run of the scheduler or not. -/
inductive Turn (ι τ : Type) where
  | ring (number : Nat)
  | enter
  | wake
  | rouse (isRun : Bool) (task : τ)
  | resume (isRun : Bool) (task : τ)
  | retire
  | beside (inputs : ι)

/-- A scheduler with its clock, the turns that are due at some time and those that are ready, the
inputs of all runs that have begun, the state that runs work on, all that was seen with its time,
and the result of the work beside it. -/
structure Runner (ι α σ τ ε : Type) where
  clock : Nat
  scheduler : Debounce ι
  agenda : Agenda (Turn ι τ)
  ready : List (Turn ι τ)
  begun : List ι
  state : σ
  log : List (Nat × ε)
  aside : Option (Except Failure α)

namespace Runner

variable {ι α σ τ ε : Type}

/-- A scheduler with nothing to do, at time zero. -/
def initial (state : σ) : Runner ι α σ τ ε := ⟨0, .initial, .empty, [], [], state, [], none⟩

/-- Records what is seen now. -/
def see (r : Runner ι α σ τ ε) (events : List ε) : Runner ι α σ τ ε :=
  { r with log := r.log ++ events.map fun e => (r.clock, e) }

/-- Forgets what was seen. -/
def forget (r : Runner ι α σ τ ε) : Runner ι α σ τ ε := { r with log := [] }

/-- Puts a turn at the end of the queue. -/
def enqueue (t : Turn ι τ) (r : Runner ι α σ τ ε) : Runner ι α σ τ ε :=
  { r with ready := r.ready ++ [t] }

/-- Puts a turn into the agenda, some milliseconds from now. -/
def plan (ms : Int) (t : Turn ι τ) (r : Runner ι α σ τ ε) : Runner ι α σ τ ε :=
  { r with agenda := r.agenda.push ⟨r.clock + ms, t⟩ }

/-- Arms the timer; it never fires if the quiet period never ends. -/
def schedule (r : Runner ι α σ τ ε) (quiet : Option Int) (inputs : ι) : Runner ι α σ τ ε :=
  let number := r.scheduler.armings
  let r := { r with scheduler := r.scheduler.schedule inputs }
  match quiet with
  | none => r
  | some ms => r.plan ms (.ring number)

/-- Disarms the timer. -/
def cancel (r : Runner ι α σ τ ε) : Runner ι α σ τ ε :=
  { r with scheduler := r.scheduler.cancel }

/-! ## §3. Turns. -/

/-- The warning of a run's result, if it needs one. -/
def warningOf (a : Action ι α σ τ ε) : Except Failure α → List ε
  | .ok _ => []
  | .error f => if f.isReported then [] else [a.warn f]

/-- A run comes to its end: the first run that waits is woken, and the run itself retires. -/
def conclude (r : Runner ι α σ τ ε) : Runner ι α σ τ ε :=
  let r := { r with scheduler := r.scheduler.finish }
  -- The one that is woken comes before the retirement, so it begins first.
  (if r.scheduler.hasWaiting then r.enqueue .wake else r).enqueue .retire

/-- Takes in a stretch of work. -/
def absorb (a : Action ι α σ τ ε) (isRun : Bool) (s : Stretch α σ τ ε)
    (r : Runner ι α σ τ ε) : Runner ι α σ τ ε :=
  let r := ({ r with state := s.state }).see s.events
  match s.stop with
  | .paused ms task => r.plan ms (.rouse isRun task)
  | .ended result =>
      -- Work beside the scheduler holds nobody up, and its failure is for whoever asked for it.
      if isRun then (r.see (warningOf a result)).conclude else { r with aside := some result }

/-- A run begins, if there is one. -/
def begin (a : Action ι α σ τ ε) (r : Runner ι α σ τ ε) :
    Option ι × Debounce ι → Runner ι α σ τ ε
  | (none, d) => { r with scheduler := d }
  | (some inputs, d) =>
      absorb a true (a.start inputs r.state)
        { r with scheduler := d, begun := r.begun ++ [inputs] }

/-- Takes a turn. -/
def take (a : Action ι α σ τ ε) (r : Runner ι α σ τ ε) : Turn ι τ → Runner ι α σ τ ε
  | .ring number =>
      -- A timer that was armed anew has another number.
      if r.scheduler.isArmed number then
        { r with scheduler := r.scheduler.fire }.enqueue .enter
      else r
  | .enter => begin a r r.scheduler.enter
  | .wake => begin a r r.scheduler.wake
  | .rouse isRun task => r.enqueue (.resume isRun task)
  | .resume isRun task => absorb a isRun (a.resume task r.state) r
  | .retire => { r with scheduler := r.scheduler.reap }
  | .beside inputs => absorb a false (a.start inputs r.state) r

/-! ## §4. Rounds. -/

/-- Whether a turn does nothing: the timer that it rings for is no longer armed. -/
def isVoid (r : Runner ι α σ τ ε) : Turn ι τ → Bool
  | .ring number => !r.scheduler.isArmed number
  | _ => false

/-- Drops turns that do nothing from the head of the agenda, at most so many. -/
def dropVoid : Nat → Runner ι α σ τ ε → Runner ι α σ τ ε
  | 0, r => r
  | n + 1, r =>
      match r.agenda.pop? with
      | some (s, rest) => if r.isVoid s.item then dropVoid n { r with agenda := rest } else r
      | none => r

/-- Moves the turns that are due from the agenda to the queue, at most so many. -/
def collect : Nat → Runner ι α σ τ ε → Runner ι α σ τ ε
  | 0, r => r
  | n + 1, r =>
      match r.agenda.pop? with
      | some (s, rest) =>
          if s.due ≤ r.clock then collect n ({ r with agenda := rest }.enqueue s.item) else r
      | none => r

/-- The state before a round, without turns at the head of the agenda that do nothing. -/
def tidy (r : Runner ι α σ τ ε) : Runner ι α σ τ ε := dropVoid r.agenda.size r

/-- A round: what is due joins the queue, and all turns that are in it then are taken. -/
def round (a : Action ι α σ τ ε) (r : Runner ι α σ τ ε) : Runner ι α σ τ ε :=
  let r := collect r.agenda.size r
  -- Turns that are added in the meantime stay for the next round.
  r.ready.foldl (take a) { r with ready := [] }

/-- When the next round takes place: now if turns are ready, else when the first turn of the agenda
is due, if there is one. -/
def nextTime? (r : Runner ι α σ τ ε) : Option Nat :=
  if r.ready.isEmpty then r.agenda.head?.map fun s => max r.clock s.due.toNat else some r.clock

/-! ## §5. Passing time. -/

/-- Takes rounds up to a time or until a condition holds, at most so many. -/
def pass (a : Action ι α σ τ ε) (limit : Option Nat) (condition : Runner ι α σ τ ε → Bool) :
    Nat → Runner ι α σ τ ε → Runner ι α σ τ ε
  | 0, r => r
  | n + 1, r =>
      if condition r then r
      -- A timer that was disarmed must not draw the clock to its time.
      else
        let r := r.tidy
        match r.nextTime? with
        | none => r
        | some time =>
            if limit.any (· < time) then r
            else pass a limit condition n (round a { r with clock := time })

/-- Lets some milliseconds pass, in at most so many rounds. -/
def advance (a : Action ι α σ τ ε) (rounds ms : Nat) (r : Runner ι α σ τ ε) : Runner ι α σ τ ε :=
  let limit := r.clock + ms
  { pass a (some limit) (fun _ => false) rounds r with clock := limit }

/-- Lets time pass until the scheduler is idle, in at most so many rounds. -/
def waitIdle (a : Action ι α σ τ ε) (rounds : Nat) (r : Runner ι α σ τ ε) : Runner ι α σ τ ε :=
  pass a none (·.scheduler.idle) rounds r

/-- Does work beside the scheduler to its end, in at most so many rounds.  One more round follows in
which its result is noticed. -/
def doAside (a : Action ι α σ τ ε) (inputs : ι) (rounds : Nat) (r : Runner ι α σ τ ε) :
    Runner ι α σ τ ε :=
  -- The work waits in the queue like any other turn.
  let r := pass a none (·.aside.isSome) rounds ({ r with aside := none }.enqueue (.beside inputs))
  round a r.tidy

end Runner

end QuasiGrammar
