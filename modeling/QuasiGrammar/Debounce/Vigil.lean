import QuasiGrammar.Debounce.Moves

/-
  QuasiGrammar.Debounce.Vigil
  ───────────────────────────
  Those who wait until a scheduler has nothing left to do.  Whoever finds the
  flag `idle` up does not wait at all; the others wait until it goes up, and
  then all of them are let go at once.

  What there is left to do is written down apart from the scheduler, from
  nothing but what happens: whether a timer is armed, how many runs have been
  fired, and how many of them have retired.

      occur    what happens next, to the runner and to those who wait
      note     what is written down of it
-/

namespace QuasiGrammar

/-- Something that happens to a runner, or to those who wait until it is idle. -/
inductive Incident (ι : Type) where
  /-- The timer is armed; it never fires if the quiet period never ends. -/
  | schedule (quiet : Option Int) (inputs : ι)
  | cancel
  | tick (t : Tick)
  /-- Someone comes to wait. -/
  | wait (who : Nat)
  deriving Repr

/-- Who comes to wait. -/
def Incident.waiter? {ι : Type} : Incident ι → Option Nat
  | .wait who => some who
  | _ => none

/-- A runner, those who wait until it is idle, and those who need not wait any more, in the order in
which they came. -/
structure Vigil (ι α σ τ ε : Type) where
  runner : Runner ι α σ τ ε
  waiting : List Nat
  released : List Nat

/-- What there is to do, as far as it has been written down. -/
structure Tally where
  armed : Bool
  fired : Nat
  retired : Nat
  deriving DecidableEq, Repr

namespace Tally

variable {ι α σ τ ε : Type}

/-- Nothing has happened. -/
def initial : Tally := ⟨false, 0, 0⟩

/-- No timer is armed, and all runs that were fired have retired. -/
def IsClear (w : Tally) : Prop := w.armed = false ∧ w.fired = w.retired

instance (w : Tally) : Decidable w.IsClear := inferInstanceAs (Decidable (_ ∧ _))

/-- What is written down of the next turn of a runner. -/
def noteTurn (w : Tally) (r : Runner ι α σ τ ε) : Tally :=
  match r.ready with
  | .ring number :: _ =>
      -- The turn of a timer that was armed anew, or disarmed, does nothing.
      if r.scheduler.isArmed number then { w with armed := false, fired := w.fired + 1 } else w
  | .retire :: _ => { w with retired := w.retired + 1 }
  | _ => w

/-- What is written down when something happens to a runner. -/
def note (w : Tally) (r : Runner ι α σ τ ε) : Incident ι → Tally
  | .schedule _ _ => { w with armed := true }
  | .cancel => { w with armed := false }
  | .tick .turn => w.noteTurn r
  | .tick _ | .wait _ => w

end Tally

namespace Vigil

variable {ι α σ τ ε : Type}

/-- Nobody waits, and there is nothing to do. -/
def initial (state : σ) : Vigil ι α σ τ ε := ⟨.initial state, [], []⟩

/-- The runner goes on to another state; if its flag goes up then, all who wait are let go. -/
def become (v : Vigil ι α σ τ ε) (r : Runner ι α σ τ ε) : Vigil ι α σ τ ε :=
  if !v.runner.scheduler.idle && r.scheduler.idle then ⟨r, [], v.released ++ v.waiting⟩
  else { v with runner := r }

/-- Someone comes to wait, unless the flag is up. -/
def await (v : Vigil ι α σ τ ε) (who : Nat) : Vigil ι α σ τ ε :=
  if v.runner.scheduler.idle then { v with released := v.released ++ [who] }
  else { v with waiting := v.waiting ++ [who] }

/-- What happens next. -/
def occur (a : Action ι α σ τ ε) (v : Vigil ι α σ τ ε) : Incident ι → Vigil ι α σ τ ε
  | .schedule quiet inputs => v.become (v.runner.schedule quiet inputs)
  | .cancel => v.become v.runner.cancel
  | .tick t => v.become (v.runner.tick a t)
  | .wait who => v.await who

/-- What happens one after another. -/
def play (a : Action ι α σ τ ε) (v : Vigil ι α σ τ ε) (incidents : List (Incident ι)) :
    Vigil ι α σ τ ε :=
  incidents.foldl (occur a) v

/-- What has been written down in the end. -/
def tally (a : Action ι α σ τ ε) (v : Vigil ι α σ τ ε) (w : Tally) : List (Incident ι) → Tally
  | [] => w
  | i :: rest => tally a (v.occur a i) (w.note v.runner i) rest

end Vigil

end QuasiGrammar
