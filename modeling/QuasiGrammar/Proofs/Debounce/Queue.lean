import QuasiGrammar.Debounce.Basic

/-
  QuasiGrammar.Proofs.Debounce.Queue
  ──────────────────────────────────
  The runs of a scheduler stand in the order of their phases: those that have
  come to their end, the one that is under way, those that wait and those that
  have not entered.  On runs in such an order every step of the scheduler moves
  one border between two phases.
-/

namespace QuasiGrammar

namespace Debounce

variable {ι : Type}

/-! ## §1. Runs in the order of their phases. -/

/-- Runs by their phases. -/
def arranged (ended : List ι) (current : Option ι) (waiting queued : List ι) : List (Fired ι) :=
  ended.map (⟨·, .ended⟩) ++ (current.toList.map (⟨·, .underway⟩) ++
    (waiting.map (⟨·, .waiting⟩) ++ queued.map (⟨·, .queued⟩)))

variable {ended waiting queued : List ι} {current : Option ι} {x : ι}

theorem arranged_eq_nil :
    arranged ended current waiting queued = [] ↔
      ended = [] ∧ current = none ∧ waiting = [] ∧ queued = [] := by
  cases current <;> simp [arranged]

theorem arranged_fire :
    arranged ended current waiting queued ++ [⟨x, .queued⟩] =
      arranged ended current waiting (queued ++ [x]) := by
  simp [arranged]

/-! ## §2. Moving a border. -/

theorem moveFirst_append {old new : Phase} {before after : List (Fired ι)}
    (h : ∀ r ∈ before, r.phase ≠ old) :
    moveFirst old new (before ++ after) =
      (moveFirst old new after).map fun p => (p.1, before ++ p.2) := by
  induction before with
  | nil => simp
  | cons r rest ih =>
    have hr : ¬ r.phase = old := h r List.mem_cons_self
    rw [List.cons_append, moveFirst, if_neg hr, ih fun r' hr' => h r' (List.mem_cons_of_mem _ hr'),
      Option.map_map]
    rfl

theorem phase_ne_of_mem {p q : Phase} (hpq : p ≠ q) {xs : List ι} :
    ∀ r ∈ (xs.map fun x => (⟨x, p⟩ : Fired ι)), r.phase ≠ q := by
  intro r hr
  obtain ⟨y, -, rfl⟩ := List.mem_map.1 hr
  exact hpq

theorem moveFirst_self {new p : Phase} {after : List (Fired ι)} :
    moveFirst p new (⟨x, p⟩ :: after) = some (x, ⟨x, new⟩ :: after) := by
  rw [moveFirst, if_pos rfl]

/-- The first run that has not entered waits behind the others. -/
theorem moveFirst_wait :
    moveFirst .queued .waiting (arranged ended current waiting (x :: queued)) =
      some (x, arranged ended current (waiting ++ [x]) queued) := by
  -- The runs of the other phases are passed over.
  unfold arranged
  rw [moveFirst_append (phase_ne_of_mem (by decide)),
    moveFirst_append (phase_ne_of_mem (by decide)),
    moveFirst_append (phase_ne_of_mem (by decide)), List.map_cons, moveFirst_self]
  simp

/-- The first run that has not entered begins. -/
theorem moveFirst_enter :
    moveFirst .queued .underway (arranged ended none [] (x :: queued)) =
      some (x, arranged ended (some x) [] queued) := by
  unfold arranged
  rw [moveFirst_append (phase_ne_of_mem (by decide))]
  simp [moveFirst_self]

/-- The first run that waits begins. -/
theorem moveFirst_wake :
    moveFirst .waiting .underway (arranged ended none (x :: waiting) queued) =
      some (x, arranged ended (some x) waiting queued) := by
  unfold arranged
  rw [moveFirst_append (phase_ne_of_mem (by decide))]
  simp [moveFirst_self]

/-! ## §3. The steps of a scheduler. -/

variable {d : Debounce ι}

theorem hasWaiting_arranged (h : d.runs = arranged ended current waiting queued) :
    d.hasWaiting = !waiting.isEmpty := by
  unfold hasWaiting
  rw [h]
  cases current <;> cases waiting <;> simp [arranged]

theorem isHeld_arranged (h : d.runs = arranged ended current waiting queued) :
    d.isHeld = (current.isSome || !waiting.isEmpty) := by
  unfold isHeld
  rw [hasWaiting_arranged h, h]
  cases current <;> simp [arranged]

/-- A run that enters waits if the line is not free. -/
theorem enter_of_held (h : d.runs = arranged ended current waiting (x :: queued))
    (hheld : current ≠ none ∨ waiting ≠ []) :
    d.enter = (none, { d with runs := arranged ended current (waiting ++ [x]) queued }) := by
  have hd : d.isHeld = true := by
    rw [isHeld_arranged h]
    rcases hheld with hc | hw
    · cases current with
      | none => exact absurd rfl hc
      | some c => rfl
    · cases waiting with
      | nil => exact absurd rfl hw
      | cons w rest => simp
  unfold enter move
  rw [if_pos hd, h, moveFirst_wait]

/-- A run that enters begins if the line is free. -/
theorem enter_of_free (h : d.runs = arranged ended none [] (x :: queued)) :
    d.enter = (some x, { d with runs := arranged ended (some x) [] queued }) := by
  have hd : d.isHeld = false := by
    rw [isHeld_arranged h]
    rfl
  unfold enter move
  rw [hd, h, moveFirst_enter]
  rfl

theorem wake_arranged (h : d.runs = arranged ended none (x :: waiting) queued) :
    d.wake = (some x, { d with runs := arranged ended (some x) waiting queued }) := by
  unfold wake move
  rw [h, moveFirst_wake]

theorem finish_arranged (h : d.runs = arranged ended (some x) waiting queued) :
    d.finish = { d with runs := arranged (ended ++ [x]) none waiting queued } := by
  unfold finish
  rw [h]
  -- Only the run that is under way changes its phase.
  simp [arranged, List.map_append, Function.comp_def]

@[simp]
theorem runs_updateIdle (d : Debounce ι) : d.updateIdle.runs = d.runs := by
  unfold updateIdle; split <;> rfl

@[simp]
theorem timer_updateIdle (d : Debounce ι) : d.updateIdle.timer = d.timer := by
  unfold updateIdle; split <;> rfl

@[simp]
theorem armings_updateIdle (d : Debounce ι) : d.updateIdle.armings = d.armings := by
  unfold updateIdle; split <;> rfl

theorem reap_arranged (h : d.runs = arranged (x :: ended) current waiting queued) :
    d.reap.runs = arranged ended current waiting queued := by
  unfold reap
  rw [runs_updateIdle]
  show d.runs.eraseP _ = _
  rw [h]
  simp [arranged]

end Debounce

end QuasiGrammar
