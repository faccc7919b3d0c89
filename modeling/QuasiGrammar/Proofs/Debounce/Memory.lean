import QuasiGrammar.Proofs.Debounce.Accounts

/-
  QuasiGrammar.Proofs.Debounce.Memory
  ───────────────────────────────────
  **A scheduler remembers nothing of what was seen, and nothing of a failure.**

  Whatever is done with a runner is done in the same way if it has a longer past
  (`withPast`).  So two runners that differ in their pasts alone go on in the same
  way.  A run that fails leaves such a difference: a scheduler whose failures
  are spared comes out of the same turn with another past, and with nothing else
  changed (`forget_takeNext_sparing`).
-/

namespace QuasiGrammar

variable {ι α σ τ ε : Type}

namespace Runner

/-! ## §1. The past. -/

/-- The runner with a longer past. -/
def withPast (past : List (Nat × ε)) (r : Runner ι α σ τ ε) : Runner ι α σ τ ε :=
  { r with log := past ++ r.log }

variable (a : Action ι α σ τ ε) (past : List (Nat × ε)) (r : Runner ι α σ τ ε)

@[simp]
theorem log_withPast : (r.withPast past).log = past ++ r.log := rfl

@[simp]
theorem forget_withPast : (r.withPast past).forget = r.forget := rfl

theorem withPast_forget : r.forget.withPast r.log = r := by
  unfold withPast forget
  rw [List.append_nil]

theorem see_withPast (events : List ε) :
    (r.withPast past).see events = (r.see events).withPast past := by
  unfold see withPast
  rw [List.append_assoc]

theorem schedule_withPast (quiet : Option Int) (x : ι) :
    (r.withPast past).schedule quiet x = (r.schedule quiet x).withPast past := by
  cases quiet <;> rfl

theorem conclude_withPast : (r.withPast past).conclude = r.conclude.withPast past := by
  unfold conclude
  by_cases hw : r.scheduler.finish.hasWaiting = true
  · have hw' : (r.withPast past).scheduler.finish.hasWaiting = true := hw
    simp only [if_pos hw, if_pos hw']
    rfl
  · have hw' : ¬ (r.withPast past).scheduler.finish.hasWaiting = true := hw
    simp only [if_neg hw, if_neg hw']
    rfl

theorem absorb_withPast (isRun : Bool) (s : Stretch α σ τ ε) :
    absorb a isRun s (r.withPast past) = (absorb a isRun s r).withPast past := by
  have hseen := see_withPast past { r with state := s.state } s.events
  unfold absorb
  rw [show ({ r.withPast past with state := s.state } : Runner ι α σ τ ε) =
    ({ r with state := s.state } : Runner ι α σ τ ε).withPast past from rfl, hseen]
  cases s.stop with
  | paused ms task => rfl
  | ended result =>
    cases isRun with
    | false => rfl
    | true =>
      simp only [if_true]
      rw [see_withPast, conclude_withPast]

theorem begin_withPast (p : Option ι × Debounce ι) :
    begin a (r.withPast past) p = (begin a r p).withPast past := by
  obtain ⟨_ | inputs, d⟩ := p
  · rfl
  · exact absorb_withPast a past { r with scheduler := d, begun := r.begun ++ [inputs] } true
      (a.start inputs r.state)

theorem take_withPast (t : Turn ι τ) : take a (r.withPast past) t = (take a r t).withPast past := by
  cases t with
  | ring number =>
    unfold take
    by_cases harmed : r.scheduler.isArmed number = true
    · have harmed' : (r.withPast past).scheduler.isArmed number = true := harmed
      simp only [if_pos harmed, if_pos harmed']
      rfl
    · have harmed' : ¬ (r.withPast past).scheduler.isArmed number = true := harmed
      simp only [if_neg harmed, if_neg harmed']
  | enter => exact begin_withPast a past r _
  | wake => exact begin_withPast a past r _
  | rouse isRun task => rfl
  | resume isRun task => exact absorb_withPast a past r isRun _
  | retire => rfl
  | beside inputs => exact absorb_withPast a past r false _

theorem takeNext_withPast : (r.withPast past).takeNext a = (r.takeNext a).withPast past := by
  unfold takeNext
  rw [show (r.withPast past).ready = r.ready from rfl]
  cases r.ready with
  | nil => rfl
  | cons t rest => exact take_withPast a past { r with ready := rest } t

theorem collect_withPast (n : Nat) : collect n (r.withPast past) = (collect n r).withPast past := by
  induction n generalizing r with
  | zero => rfl
  | succ n ih =>
    unfold collect
    rw [show (r.withPast past).agenda.pop? = r.agenda.pop? from rfl]
    cases r.agenda.pop? with
    | none => rfl
    | some p =>
      by_cases hdue : p.1.due ≤ r.clock
      · have hdue' : p.1.due ≤ (r.withPast past).clock := hdue
        simp only [if_pos hdue, if_pos hdue']
        exact ih (({ r with agenda := p.2 } : Runner ι α σ τ ε).enqueue p.1.item)
      · have hdue' : ¬ p.1.due ≤ (r.withPast past).clock := hdue
        simp only [if_neg hdue, if_neg hdue']

theorem dropVoid_withPast (n : Nat) : dropVoid n (r.withPast past) = (dropVoid n r).withPast past := by
  induction n generalizing r with
  | zero => rfl
  | succ n ih =>
    unfold dropVoid
    rw [show (r.withPast past).agenda.pop? = r.agenda.pop? from rfl]
    cases r.agenda.pop? with
    | none => rfl
    | some p =>
      by_cases hvoid : r.isVoid p.1.item = true
      · have hvoid' : (r.withPast past).isVoid p.1.item = true := hvoid
        simp only [if_pos hvoid, if_pos hvoid']
        exact ih { r with agenda := p.2 }
      · have hvoid' : ¬ (r.withPast past).isVoid p.1.item = true := hvoid
        simp only [if_neg hvoid, if_neg hvoid']

/-- **A tick does not look at the past.** -/
theorem tick_withPast (t : Tick) : (r.withPast past).tick a t = (r.tick a t).withPast past := by
  cases t with
  | tidy => exact dropVoid_withPast past r _
  | gather => exact collect_withPast past r _
  | turn => exact takeNext_withPast a past r
  | wait ms =>
    by_cases hcalm : r.isCalm (r.clock + ms) = true
    · have hcalm' : (r.withPast past).isCalm ((r.withPast past).clock + ms) = true := hcalm
      rw [tick_wait_of_calm a hcalm, tick_wait_of_calm a hcalm']
      rfl
    · have hcalm' : ¬ (r.withPast past).isCalm ((r.withPast past).clock + ms) = true := hcalm
      rw [tick_wait_of_not_calm a hcalm, tick_wait_of_not_calm a hcalm']

end Runner

/-! ## §2. Failures that are spared. -/

/-- The stretch of work as it would be if it did not fail: it ends with some result, and of what is
seen only some events are left.  What it does to the state is the same. -/
def Stretch.spared (keep : ε → Bool) (result : α) (s : Stretch α σ τ ε) : Stretch α σ τ ε :=
  match s.stop with
  | .ended (.error _) => ⟨s.state, s.events.filter keep, .ended (.ok result)⟩
  | _ => s

/-- The action whose runs do not fail, but do the same to the state. -/
def Action.sparing (a : Action ι α σ τ ε) (keep : ε → Bool) (result : α) : Action ι α σ τ ε where
  start x state := (a.start x state).spared keep result
  resume task state := (a.resume task state).spared keep result
  warn := a.warn

namespace Runner

variable {a : Action ι α σ τ ε} {r : Runner ι α σ τ ε} {keep : ε → Bool} {result : α}

theorem forget_conclude {r' : Runner ι α σ τ ε} (h : r.forget = r'.forget) :
    r.conclude.forget = r'.conclude.forget := by
  rw [← withPast_forget r, ← withPast_forget r', conclude_withPast, conclude_withPast, forget_withPast,
    forget_withPast, h]

/-- A run that fails leaves the same behind as one that does not. -/
theorem forget_absorb_spared (b : Action ι α σ τ ε) (s : Stretch α σ τ ε)
    (r : Runner ι α σ τ ε) :
    (absorb a true s r).forget = (absorb b true (s.spared keep result) r).forget := by
  unfold absorb Stretch.spared
  obtain ⟨state, events, stop⟩ := s
  cases stop with
  | paused ms task => rfl
  | ended q => cases q <;> exact forget_conclude rfl

theorem forget_begin_sparing (r : Runner ι α σ τ ε) (p : Option ι × Debounce ι) :
    (begin a r p).forget = (begin (a.sparing keep result) r p).forget := by
  obtain ⟨_ | inputs, d⟩ := p
  · rfl
  · exact forget_absorb_spared _ _ _

/-- **A turn in which a run fails differs in what is seen alone** from one in which it does not. -/
theorem forget_takeNext_sparing (hown : ∀ t ∈ r.ready, t.isOwn = true) :
    (r.takeNext a).forget = (r.takeNext (a.sparing keep result)).forget := by
  unfold takeNext
  cases hready : r.ready with
  | nil => rfl
  | cons t rest =>
    have ht := hown t (hready ▸ List.mem_cons_self)
    cases t with
    | ring number => rfl
    | enter => exact forget_begin_sparing _ _
    | wake => exact forget_begin_sparing _ _
    | rouse isRun task => rfl
    | resume isRun task =>
      cases isRun with
      | false => cases ht
      | true => exact forget_absorb_spared _ _ _
    | retire => rfl
    | beside inputs => cases ht

/-- Only turns of runs are ready. -/
theorem Accounts.own {runs : List (Record ι α ε)} {besides : List ε}
    (h : r.Accounts a runs besides) : ∀ t ∈ r.ready, t.isOwn = true := by
  obtain ⟨l, hshows, -⟩ := h
  obtain ⟨ended, waiting, queued, hstands, -⟩ := hshows.stands
  exact hstands.counts.own

end Runner

end QuasiGrammar
