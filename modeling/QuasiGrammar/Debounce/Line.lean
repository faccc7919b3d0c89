import QuasiGrammar.Debounce.Runner

/-
  QuasiGrammar.Debounce.Line
  ──────────────────────────
  A scheduler as it is seen from outside: an alarm clock in front of a line.
  Whoever is there when the alarm rings joins the end of the line; one at a time
  is served, from its head; a pause leaves the one who is served in place.
  There are no turns here, no phases, and no order among things that are ready.

      schedule   sets the alarm anew
      cancel     sets it off
      fire       the alarm rings, and its inputs join the line
      begin      the head of the line is served, when nobody else is
      resume     the one who is served goes on after a pause
      pass       the clock moves

  With `exact`, all this happens in time: the alarm rings and a pause is over
  when they are due, and the clock does not move past anything that is to be
  done.
-/

namespace QuasiGrammar

/-- A run that pauses: its inputs, when the pause is over, and what is to be done then. -/
structure Paused (ι τ : Type) where
  inputs : ι
  due : Nat
  task : τ

/-- A scheduler seen from outside.  The alarm has a time, unless it never rings; the inputs that it
rang for are kept with the time. -/
structure Line (ι σ τ ε : Type) where
  clock : Nat
  alarm : Option (Option Int × ι)
  fired : List (Nat × ι)
  waiting : List ι
  current : Option (Paused ι τ)
  begun : List ι
  state : σ
  log : List (Nat × ε)

namespace Line

variable {ι α σ τ ε : Type}

/-- Nothing to do, at time zero. -/
def initial (state : σ) : Line ι σ τ ε := ⟨0, none, [], [], none, [], state, []⟩

/-- Records what is seen now. -/
def see (l : Line ι σ τ ε) (events : List ε) : Line ι σ τ ε :=
  { l with log := l.log ++ events.map fun e => (l.clock, e) }

/-- Serves a run for a stretch of work: it pauses then, or leaves. -/
def serve (a : Action ι α σ τ ε) (inputs : ι) (s : Stretch α σ τ ε) (l : Line ι σ τ ε) :
    Line ι σ τ ε :=
  let l := ({ l with state := s.state }).see s.events
  match s.stop with
  | .paused ms task => { l with current := some ⟨inputs, l.clock + ms, task⟩ }
  | .ended r => { l.see (Runner.warningOf a r) with current := none }

/-- Sets the alarm. -/
def schedule (l : Line ι σ τ ε) (quiet : Option Int) (inputs : ι) : Line ι σ τ ε :=
  { l with alarm := some (quiet.map (l.clock + ·), inputs) }

/-- Sets the alarm off. -/
def cancel (l : Line ι σ τ ε) : Line ι σ τ ε := { l with alarm := none }

/-- The alarm rings. -/
def fire (l : Line ι σ τ ε) (inputs : ι) : Line ι σ τ ε :=
  { l with
    alarm := none
    fired := l.fired ++ [(l.clock, inputs)]
    waiting := l.waiting ++ [inputs] }

/-- The head of the line is served, with that of it which is left. -/
def begin (a : Action ι α σ τ ε) (l : Line ι σ τ ε) (inputs : ι) (rest : List ι) : Line ι σ τ ε :=
  serve a inputs (a.start inputs l.state)
    { l with waiting := rest, begun := l.begun ++ [inputs] }

/-- The one who is served goes on. -/
def resume (a : Action ι α σ τ ε) (l : Line ι σ τ ε) (p : Paused ι τ) : Line ι σ τ ε :=
  serve a p.inputs (a.resume p.task l.state) l

/-- What happens by itself to a line. -/
inductive Step (exact : Prop) (a : Action ι α σ τ ε) : Line ι σ τ ε → Line ι σ τ ε → Prop
  | stay (l : Line ι σ τ ε) : Step exact a l l
  | fire {l : Line ι σ τ ε} {due : Int} {inputs : ι} (halarm : l.alarm = some (some due, inputs))
      (hdue : exact → due ≤ l.clock) : Step exact a l (l.fire inputs)
  | begin {l : Line ι σ τ ε} {inputs : ι} {rest : List ι} (hfree : l.current = none)
      (hwaiting : l.waiting = inputs :: rest) : Step exact a l (l.begin a inputs rest)
  | resume {l : Line ι σ τ ε} {p : Paused ι τ} (hcurrent : l.current = some p)
      (hdue : exact → p.due = l.clock) : Step exact a l (l.resume a p)
  | pass {l : Line ι σ τ ε} {time : Nat} (hlater : exact → l.clock ≤ time)
      (hline : exact → l.current = none → l.waiting = [])
      (hpause : exact → ∀ p, l.current = some p → time ≤ p.due)
      (halarm : exact → ∀ due inputs, l.alarm = some (some due, inputs) → (time : Int) ≤ due) :
      Step exact a l { l with clock := time }

/-! ## What serving leaves alone. -/

section

variable (a : Action ι α σ τ ε) (inputs : ι) (s : Stretch α σ τ ε) (l : Line ι σ τ ε)

@[simp]
theorem clock_serve : (l.serve a inputs s).clock = l.clock := by
  unfold serve; split <;> rfl

@[simp]
theorem alarm_serve : (l.serve a inputs s).alarm = l.alarm := by
  unfold serve; split <;> rfl

@[simp]
theorem fired_serve : (l.serve a inputs s).fired = l.fired := by
  unfold serve; split <;> rfl

@[simp]
theorem waiting_serve : (l.serve a inputs s).waiting = l.waiting := by
  unfold serve; split <;> rfl

@[simp]
theorem begun_serve : (l.serve a inputs s).begun = l.begun := by
  unfold serve; split <;> rfl

@[simp]
theorem state_serve : (l.serve a inputs s).state = s.state := by
  unfold serve; split <;> rfl

end

end Line

end QuasiGrammar
