import QuasiGrammar.Proofs.Debounce.Queue
import QuasiGrammar.Proofs.Debounce.Token

/-
  QuasiGrammar.Proofs.Debounce.Alarm
  ──────────────────────────────────
  The timer of a scheduler as an alarm.  Timers are told apart by their numbers:
  a turn that rings for an earlier timer finds a number that is not armed, and
  does nothing.  So the armed timer has one turn to ring with, at the time that
  the alarm is set to (`Rings`), and what becomes of all other turns does not
  matter to it.
-/

namespace QuasiGrammar

variable {ι τ : Type}

namespace Runner

/-- The timer is armed as the alarm is set: with its inputs, and with one turn at its time. -/
structure Rings (exact : Prop) (clock : Nat) (ready : List (Turn ι τ)) (agenda : Agenda (Turn ι τ))
    (d : Debounce ι) (alarm : Option (Option Int × ι)) : Prop where
  known : ∀ n, .ring n ∈ ready ∨ (∃ s ∈ agenda.toList, s.item = .ring n) → n < d.armings
  silent : d.timer = none → alarm = none
  armed : ∀ t, d.timer = some t → t.number < d.armings ∧ ∃ due, alarm = some (due, t.inputs) ∧
    Sole exact clock ready agenda (Turn.bell? t.number) (due.map (·, ()))

namespace Rings

variable {exact : Prop} {clock : Nat} {ready rest : List (Turn ι τ)}
  {agenda left : Agenda (Turn ι τ)} {d d' : Debounce ι} {alarm : Option (Option Int × ι)}
  {t : Turn ι τ} {s : Slot (Turn ι τ)}

theorem bell?_eq_none {n : Nat} (h : ∀ m, t = .ring m → m ≠ n) : t.bell? n = none := by
  cases t with
  | ring m => exact if_neg (h m rfl)
  | enter => rfl
  | wake => rfl
  | rouse isRun task => rfl
  | resume isRun task => rfl
  | retire => rfl
  | beside inputs => rfl

theorem bell?_of_not_armed {timer : Timer ι} (htimer : d.timer = some timer)
    (ht : ∀ n, t = .ring n → d.isArmed n = false) : t.bell? timer.number = none := by
  apply bell?_eq_none
  rintro m hm rfl
  have := ht _ hm
  simp [Debounce.isArmed, htimer] at this

theorem mem_of_pop? {s' : Slot (Turn ι τ)} (hpop : agenda.pop? = some (s, left))
    (hs' : s' ∈ left.toList) : s' ∈ agenda.toList :=
  (Agenda.perm_pop? hpop).mem_iff.2 (List.mem_cons_of_mem _ hs')

theorem head_mem_of_pop? (hpop : agenda.pop? = some (s, left)) : s ∈ agenda.toList :=
  (Agenda.perm_pop? hpop).mem_iff.2 List.mem_cons_self

/-! ## §1. Turns come and go. -/

/-- Other turns make no difference, unless one of them rings for a number that is not known, or for
that of the armed timer. -/
theorem of_turns {clock' : Nat} {ready' : List (Turn ι τ)} {agenda' : Agenda (Turn ι τ)}
    (h : Rings exact clock ready agenda d alarm)
    (hknown : ∀ n, .ring n ∈ ready' ∨ (∃ s ∈ agenda'.toList, s.item = .ring n) →
      .ring n ∈ ready ∨ ∃ s ∈ agenda.toList, s.item = .ring n)
    (hsole : ∀ timer token, d.timer = some timer →
      Sole exact clock ready agenda (Turn.bell? timer.number) token →
        Sole exact clock' ready' agenda' (Turn.bell? timer.number) token) :
    Rings exact clock' ready' agenda' d alarm := by
  refine ⟨fun n hn => h.known n (hknown n hn), h.silent, ?_⟩
  intro timer htimer
  obtain ⟨hlt, due, halarm, hone⟩ := h.armed timer htimer
  exact ⟨hlt, due, halarm, hsole timer _ htimer hone⟩

theorem later {clock' : Nat} (h : Rings exact clock ready agenda d alarm)
    (hle : exact → clock ≤ clock') : Rings exact clock' ready agenda d alarm :=
  h.of_turns (fun _ hn => hn) fun _ _ _ hsole => hsole.later hle

theorem enqueue (h : Rings exact clock ready agenda d alarm) (ht : ∀ n, t ≠ .ring n) :
    Rings exact clock (ready ++ [t]) agenda d alarm := by
  apply h.of_turns
  · rintro n (hn | hn)
    · rcases List.mem_append.1 hn with hn | hn
      · exact .inl hn
      · exact absurd (List.mem_singleton.1 hn).symm (ht n)
    · exact .inr hn
  · intro timer token _ hsole
    exact hsole.enqueue_other (bell?_eq_none fun m hm => absurd hm (ht m))

theorem push (h : Rings exact clock ready agenda d alarm) (hs : ∀ n, s.item ≠ .ring n) :
    Rings exact clock ready (agenda.push s) d alarm := by
  apply h.of_turns
  · rintro n (hn | ⟨s', hs', hn⟩)
    · exact .inl hn
    · rcases List.mem_cons.1 ((Agenda.perm_push s agenda).mem_iff.1 hs') with rfl | hs'
      · exact absurd hn (hs n)
      · exact .inr ⟨s', hs', hn⟩
  · intro timer token _ hsole
    exact hsole.push_other (bell?_eq_none fun m hm => absurd hm (hs m))

/-- A turn is taken that does not ring for the armed timer. -/
theorem drop (h : Rings exact clock (t :: rest) agenda d alarm)
    (ht : ∀ n, t = .ring n → d.isArmed n = false) : Rings exact clock rest agenda d alarm := by
  apply h.of_turns
  · rintro n (hn | hn)
    · exact .inl (List.mem_cons_of_mem _ hn)
    · exact .inr hn
  · intro timer token htimer hsole
    exact hsole.drop_other (bell?_of_not_armed htimer ht)

/-- What is due joins the queue. -/
theorem gather (h : Rings exact clock ready agenda d alarm) (hpop : agenda.pop? = some (s, left))
    (hdue : s.due ≤ clock) : Rings exact clock (ready ++ [s.item]) left d alarm := by
  apply h.of_turns
  · rintro n (hn | ⟨s', hs', hn⟩)
    · rcases List.mem_append.1 hn with hn | hn
      · exact .inl hn
      · exact .inr ⟨s, head_mem_of_pop? hpop, (List.mem_singleton.1 hn).symm⟩
    · exact .inr ⟨s', mem_of_pop? hpop hs', hn⟩
  · intro timer token _ hsole
    exact hsole.gather hpop hdue

/-- A turn that rings for no armed timer is dropped from the agenda. -/
theorem pop (h : Rings exact clock ready agenda d alarm) (hpop : agenda.pop? = some (s, left))
    (hs : ∀ n, s.item = .ring n → d.isArmed n = false) : Rings exact clock ready left d alarm := by
  apply h.of_turns
  · rintro n (hn | ⟨s', hs', hn⟩)
    · exact .inl hn
    · exact .inr ⟨s', mem_of_pop? hpop hs', hn⟩
  · intro timer token htimer hsole
    exact hsole.pop_other hpop (bell?_of_not_armed htimer hs)

/-! ## §2. The timer changes. -/

/-- The alarm depends on the timer alone. -/
theorem of_timer (h : Rings exact clock ready agenda d alarm) (ht : d'.timer = d.timer)
    (ha : d'.armings = d.armings) : Rings exact clock ready agenda d' alarm := by
  refine ⟨?_, ?_, ?_⟩
  · rw [ha]
    exact h.known
  · rw [ht]
    exact h.silent
  · rw [ht, ha]
    exact h.armed

/-- The timer is no longer armed. -/
theorem disarmed (h : Rings exact clock ready agenda d alarm) (ht : d'.timer = none)
    (ha : d'.armings = d.armings) : Rings exact clock ready agenda d' none := by
  refine ⟨?_, fun _ => rfl, ?_⟩
  · rw [ha]
    exact h.known
  · intro t htimer
    rw [ht] at htimer
    cases htimer

/-- No turn rings yet for a number that was never used. -/
theorem sole_unused (h : Rings exact clock ready agenda d alarm) :
    Sole exact clock ready agenda (Turn.bell? d.armings) none := by
  constructor
  · rw [List.filterMap_eq_nil_iff]
    intro t ht
    refine bell?_eq_none ?_
    rintro m rfl hm
    have := h.known m (.inl ht)
    omega
  · unfold planned
    rw [List.filterMap_eq_nil_iff]
    intro s hs
    have hnone : s.item.bell? d.armings = none := by
      refine bell?_eq_none ?_
      intro m hm hma
      have := h.known m (.inr ⟨s, hs, hm⟩)
      omega
    rw [hnone]
    rfl

/-- A timer that never rings is armed. -/
theorem schedule_never (h : Rings exact clock ready agenda d alarm) (x : ι) :
    Rings exact clock ready agenda (d.schedule x) (some (none, x)) := by
  refine ⟨?_, nofun, ?_⟩
  · intro n hn
    have := h.known n hn
    show n < d.armings + 1
    omega
  · rintro t ⟨⟩
    refine ⟨?_, none, rfl, h.sole_unused⟩
    show d.armings < d.armings + 1
    omega

/-- A timer is armed with its turn. -/
theorem schedule (h : Rings exact clock ready agenda d alarm) (due : Int) (x : ι) :
    Rings exact clock ready (agenda.push ⟨due, .ring d.armings⟩) (d.schedule x)
      (some (some due, x)) := by
  refine ⟨?_, nofun, ?_⟩
  · -- Earlier turns have smaller numbers; the new one has the number that is used up.
    rintro n (hn | ⟨s', hs', hn⟩)
    · have := h.known n (.inl hn)
      show n < d.armings + 1
      omega
    · show n < d.armings + 1
      rcases List.mem_cons.1 ((Agenda.perm_push _ agenda).mem_iff.1 hs') with rfl | hs'
      · cases hn
        omega
      · have := h.known n (.inr ⟨s', hs', hn⟩)
        omega
  · rintro t ⟨⟩
    refine ⟨?_, some due, rfl, ?_⟩
    · show d.armings < d.armings + 1
      omega
    · -- Nothing rings for the new number yet but the turn that is planned with it.
      exact h.sole_unused.push_self (if_pos rfl)

/-- The turn that is taken rings for the armed timer: the alarm is set, and its time has come. -/
theorem rung {n : Nat} (h : Rings exact clock (.ring n :: rest) agenda d alarm)
    (hn : d.isArmed n = true) :
    ∃ t due, d.timer = some t ∧ alarm = some (some due, t.inputs) ∧ (exact → due ≤ clock) := by
  unfold Debounce.isArmed at hn
  obtain ⟨t, ht, hnum⟩ := (Option.any_eq_true _ _).1 hn
  have hnum : t.number = n := by simpa using hnum
  obtain ⟨-, due?, halarm, hsole⟩ := h.armed t ht
  obtain ⟨due, hdue, hle, -⟩ := hsole.drop_self (b := ()) (if_pos hnum.symm)
  -- A timer that never rings has no turn.
  cases due? with
  | none => cases hdue
  | some due' =>
    cases hdue
    exact ⟨t, due, ht, halarm, hle⟩

end Rings

end Runner

end QuasiGrammar
