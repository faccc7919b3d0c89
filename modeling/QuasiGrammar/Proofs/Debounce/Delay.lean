import Mathlib.Data.List.Induction
import QuasiGrammar.Proofs.Debounce.Simulation

/-
  QuasiGrammar.Proofs.Debounce.Delay
  ──────────────────────────────────
  **A timer that is armed fires when its quiet period is over, and not before.**

  A line that goes in time does not move its clock past the time of its alarm
  (`Line.IsAhead`), so the alarm can only ring at this very time.  Between two
  calls it is not set again, and so it rings once at most (`Line.RungAtMost`).
  What the runs do makes no difference.
-/

namespace QuasiGrammar

variable {ι α σ τ ε : Type}

/-! ## §1. The alarm between two calls. -/

namespace Line

variable {a : Action ι α σ τ ε} {before l l' : Line ι σ τ ε}

/-- The time that the alarm is set to has not passed. -/
def IsAhead (l : Line ι σ τ ε) : Prop :=
  ∀ due x, l.alarm = some (some due, x) → (l.clock : Int) ≤ due

theorem isAhead_initial (state : σ) : IsAhead (Line.initial state : Line ι σ τ ε) :=
  fun _ _ halarm => nomatch halarm

theorem isAhead_cancel (l : Line ι σ τ ε) : IsAhead l.cancel := fun _ _ halarm => nomatch halarm

theorem isAhead_schedule (l : Line ι σ τ ε) {quiet : Option Int}
    (hquiet : ∀ ms, quiet = some ms → 0 ≤ ms) (x : ι) : IsAhead (l.schedule quiet x) := by
  intro due x' halarm
  obtain ⟨hdue, -⟩ := Prod.mk.inj (Option.some.inj halarm)
  obtain ⟨ms, hms, rfl⟩ := Option.map_eq_some_iff.1 hdue
  have := hquiet ms hms
  show (l.clock : Int) ≤ l.clock + ms
  omega

theorem isAhead_step (h : IsAhead l) (hstep : Step True a l l') : IsAhead l' := by
  cases hstep with
  | stay => exact h
  | fire halarm hdue => exact fun _ _ hnone => nomatch hnone
  | begin hfree hwaiting =>
    intro due x halarm
    rw [begin, alarm_serve] at halarm
    rw [begin, clock_serve]
    exact h due x halarm
  | resume hcurrent hdue =>
    intro due x halarm
    rw [resume, alarm_serve] at halarm
    rw [resume, clock_serve]
    exact h due x halarm
  | pass hlater hline hpause halarm => exact fun due x hdue => halarm trivial due x hdue

/-- The alarm has not rung since it was set, or it has rung once, at its time. -/
def RungAtMost (before l : Line ι σ τ ε) : Prop :=
  (l.alarm = before.alarm ∧ l.fired = before.fired) ∨
    ∃ (due : Nat) (x : ι), before.alarm = some (some ↑due, x) ∧ l.alarm = none ∧
      l.fired = before.fired ++ [(due, x)] ∧ due ≤ l.clock

theorem rungAtMost_step (hahead : IsAhead l) (h : RungAtMost before l)
    (hstep : Step True a l l') : RungAtMost before l' := by
  -- All steps but the ringing leave the alarm alone.
  have hsame : l'.alarm = l.alarm → l'.fired = l.fired → l.clock ≤ l'.clock →
      RungAtMost before l' := by
    intro halarm hfired hclock
    rcases h with ⟨ha, hf⟩ | ⟨due, x, hbefore, hnone, hf, hle⟩
    · exact .inl ⟨halarm.trans ha, hfired.trans hf⟩
    · exact .inr ⟨due, x, hbefore, halarm.trans hnone, hfired.trans hf, Nat.le_trans hle hclock⟩
  cases hstep with
  | stay => exact h
  -- It rings now: it was set for now at the earliest, and the clock has not passed its time.
  | @fire due x halarm hdue =>
    rcases h with ⟨ha, hf⟩ | ⟨_, _, -, hnone, -, -⟩
    · have hnow : due = l.clock := by
        have hearly := hahead due x halarm
        have hlate := hdue trivial
        omega
      subst hnow
      refine .inr ⟨l.clock, x, ha.symm.trans halarm, rfl, ?_, Nat.le_refl _⟩
      show l.fired ++ [(l.clock, x)] = _
      rw [hf]
    · rw [hnone] at halarm
      cases halarm
  | begin _ _ => exact hsame (by simp [begin]) (by simp [begin]) (by simp [begin])
  | resume _ _ => exact hsame (by simp [resume]) (by simp [resume]) (by simp [resume])
  | pass hlater _ _ _ => exact hsame rfl rfl (hlater trivial)

end Line

/-! ## §2. A runner since its last call. -/

namespace Runner

variable {a : Action ι α σ τ ε} {r : Runner ι α σ τ ε} {before l : Line ι σ τ ε}
  {fired : List (Nat × ι)}

/-- The runner looked like a line after the last call, and these are the inputs that were fired
since. -/
def Since (before : Line ι σ τ ε) (fired : List (Nat × ι)) (r : Runner ι α σ τ ε) : Prop :=
  ∃ l, Shows True r l ∧ l.IsAhead ∧ before.RungAtMost l ∧ l.fired = before.fired ++ fired

theorem since_self (h : Shows True r l) (hahead : l.IsAhead) : Since l [] r :=
  ⟨l, h, hahead, .inl ⟨rfl, rfl⟩, (List.append_nil _).symm⟩

theorem Since.tick (h : Since before fired r) (a : Action ι α σ τ ε) (t : Tick) :
    Since before (fired ++ (r.firedBy (.tick t)).toList) (r.tick a t) := by
  obtain ⟨l, hshows, hahead, hrung, hfired⟩ := h
  obtain ⟨l', hstep, hfired', hshows'⟩ := shows_tick a hshows t
  refine ⟨l', hshows', Line.isAhead_step hahead hstep, Line.rungAtMost_step hahead hrung hstep, ?_⟩
  rw [hfired', hfired, List.append_assoc]

/-- The state that runs work on makes no difference. -/
theorem Since.state (h : Since before fired r) (state : σ) :
    Since before fired { r with state := state } := by
  obtain ⟨l, hshows, hahead, hrung, hfired⟩ := h
  exact ⟨_, shows_state hshows state, hahead, hrung, hfired⟩

theorem Since.ticks (h : Since before fired r) (a : Action ι α σ τ ε) (ts : List Tick) :
    Since before (fired ++ r.fired a (ts.map .tick)) (r.ticks a ts) := by
  induction ts generalizing r fired with
  | nil =>
    rw [show r.fired a ([].map .tick) = [] from rfl, List.append_nil]
    exact h
  | cons t rest ih =>
    have hrest := ih (h.tick a t)
    rw [List.append_assoc] at hrest
    exact hrest

/-- Since a timer was armed it has fired at its time, or its time has not come. -/
theorem Since.schedule {quiet : Nat} {x : ι} (h : Since (l.schedule (some ↑quiet) x) fired r) :
    (fired = [] ∧ r.clock ≤ l.clock + quiet ∧
        (r.isCalm (r.clock + 1) = true → r.clock < l.clock + quiet)) ∨
      fired = [(l.clock + quiet, x)] ∧ l.clock + quiet ≤ r.clock := by
  obtain ⟨l', hshows, hahead, hrung, hfired⟩ := h
  have halarm : (l.schedule (some ↑quiet) x).alarm =
      some (some ((l.clock + quiet : Nat) : Int), x) := by
    rw [Int.natCast_add]
    rfl
  rcases hrung with ⟨hsame, hnone⟩ | ⟨due, x', hset, -, hone, hle⟩
  · left
    rw [halarm] at hsame
    refine ⟨List.append_cancel_left (hfired.symm.trans (hnone.trans (List.append_nil _).symm)),
      ?_, ?_⟩
    · have := hahead _ _ hsame
      rw [hshows.clock] at this
      omega
    · intro hcalm
      have := le_alarm_of_isCalm hshows hcalm hsame
      omega
  · right
    rw [halarm] at hset
    obtain ⟨hdue, rfl⟩ := Prod.mk.inj (Option.some.inj hset)
    have hdue : l.clock + quiet = due := Int.ofNat_inj.1 (Option.some.inj hdue)
    rw [hshows.clock, ← hdue] at hle
    rw [← hdue] at hone
    exact ⟨List.append_cancel_left (hfired.symm.trans hone), hle⟩

/-- An alarm that has no time does not ring. -/
theorem Since.eq_nil (h : Since before fired r)
    (halarm : ∀ due x, before.alarm ≠ some (some due, x)) : fired = [] := by
  obtain ⟨l, -, -, hrung, hfired⟩ := h
  rcases hrung with ⟨-, hsame⟩ | ⟨due, x, hset, -⟩
  · exact List.append_cancel_left (hfired.symm.trans (hsame.trans (List.append_nil _).symm))
  · exact absurd hset (halarm due x)

/-! ## §3. From one call to the next. -/

/-- Inputs that were scheduled are fired when their quiet period is over, and not before. -/
theorem fired_schedule (a : Action ι α σ τ ε) (h : Shows True r l) (quiet : Nat) (x : ι)
    (ts : List Tick) :
    let scheduled := r.schedule (some ↑quiet) x
    let due := r.clock + quiet
    let last := scheduled.ticks a ts
    (scheduled.fired a (ts.map .tick) = [] ∧ last.clock ≤ due ∧
        (last.isCalm (last.clock + 1) = true → last.clock < due)) ∨
      scheduled.fired a (ts.map .tick) = [(due, x)] ∧ due ≤ last.clock := by
  intro scheduled due last
  have hahead : (l.schedule (some ↑quiet) x).IsAhead :=
    l.isAhead_schedule (fun ms hms => Option.some.inj hms ▸ Int.natCast_nonneg quiet) x
  have hsince := (since_self (shows_schedule h (some ↑quiet) x) hahead).ticks a ts
  rw [List.nil_append] at hsince
  have hall := hsince.schedule
  rw [h.clock] at hall
  exact hall

/-- After the timer was disarmed nothing is fired. -/
theorem fired_cancel (a : Action ι α σ τ ε) (h : Shows True r l) (ts : List Tick) :
    r.cancel.fired a (ts.map .tick) = [] := by
  have hsince := (since_self (shows_cancel h) l.isAhead_cancel).ticks a ts
  exact hsince.eq_nil fun _ _ => nofun

/-- Before the first call nothing is fired. -/
theorem fired_initial (a : Action ι α σ τ ε) (state : σ) (ts : List Tick) :
    (Runner.initial state : Runner ι α σ τ ε).fired a (ts.map .tick) = [] := by
  have hsince := (since_self (shows_initial True state) (Line.isAhead_initial state)).ticks a ts
  exact hsince.eq_nil fun _ _ => nofun

end Runner

end QuasiGrammar
