import QuasiGrammar.Debounce.Runner

/-
  QuasiGrammar.Proofs.Debounce.Token
  ──────────────────────────────────
  Turns as tokens.  A run that pauses has one turn to go on with, and a timer
  that is armed has one to ring with; such a turn is in the agenda until it is
  due, and in the queue from then on.  `Sole` says that there is one turn of a
  kind, or none, and each way in which turns are added, moved or taken keeps
  account of it.
-/

namespace QuasiGrammar

variable {ι τ : Type}

/-! ## §1. Kinds of turns. -/

namespace Turn

/-- The work of a run that a turn goes on with. -/
def work? : Turn ι τ → Option τ
  | .rouse true task | .resume true task => some task
  | _ => none

/-- Whether a turn rings for the timer with a number. -/
def bell? (number : Nat) : Turn ι τ → Option Unit
  | .ring n => if n = number then some () else none
  | _ => none

/-- Whether a turn lets a run enter. -/
def isEnter : Turn ι τ → Bool
  | .enter => true
  | _ => false

/-- Whether a turn wakes a run. -/
def isWake : Turn ι τ → Bool
  | .wake => true
  | _ => false

/-- Whether a turn retires a run. -/
def isRetire : Turn ι τ → Bool
  | .retire => true
  | _ => false

/-- Whether a turn serves the scheduler, and no work beside it. -/
def isOwn : Turn ι τ → Bool
  | .beside _ | .rouse false _ | .resume false _ => false
  | _ => true

/-- Whether a turn is one that can be due later. -/
def isTimed : Turn ι τ → Bool
  | .ring _ | .rouse true _ => true
  | _ => false

theorem isTimed_cases {t : Turn ι τ} (h : t.isTimed = true) :
    (∃ n, t = .ring n) ∨ ∃ task, t = .rouse true task := by
  unfold isTimed at h
  split at h
  · exact .inl ⟨_, rfl⟩
  · exact .inr ⟨_, rfl⟩
  · cases h

end Turn

/-! ## §2. One turn of a kind. -/

namespace Runner

variable {β : Type}

/-- The turns of a kind in an agenda, each with its time. -/
def planned (kind : Turn ι τ → Option β) (agenda : Agenda (Turn ι τ)) : List (Int × β) :=
  agenda.toList.filterMap fun s => (kind s.item).map (s.due, ·)

/-- There is no turn of a kind, or just one: it is ready, or in the agenda at its time. -/
def Sole (exact : Prop) (clock : Nat) (ready : List (Turn ι τ)) (agenda : Agenda (Turn ι τ))
    (kind : Turn ι τ → Option β) : Option (Int × β) → Prop
  | none => ready.filterMap kind = [] ∧ planned kind agenda = []
  | some (due, b) =>
      (ready.filterMap kind = [b] ∧ planned kind agenda = [] ∧ (exact → due ≤ clock)) ∨
        ready.filterMap kind = [] ∧ planned kind agenda = [(due, b)]

variable {exact : Prop} {clock : Nat} {ready rest : List (Turn ι τ)}
  {agenda left : Agenda (Turn ι τ)} {kind : Turn ι τ → Option β} {token : Option (Int × β)}
  {t : Turn ι τ} {s : Slot (Turn ι τ)} {b : β}

/-- The turn of a slot in front of the others, if it is of the kind. -/
theorem filterMap_slot (kind : Turn ι τ → Option β) (s : Slot (Turn ι τ))
    (slots : List (Slot (Turn ι τ))) :
    (s :: slots).filterMap (fun s => (kind s.item).map (s.due, ·)) =
      ((kind s.item).map (s.due, ·)).toList ++
        slots.filterMap fun s => (kind s.item).map (s.due, ·) := by
  cases hk : kind s.item with
  | none => simp [hk]
  | some b => simp [hk]

theorem planned_push (kind : Turn ι τ → Option β) (s : Slot (Turn ι τ)) (agenda : Agenda (Turn ι τ)) :
    (planned kind (agenda.push s)).Perm
      (((kind s.item).map (s.due, ·)).toList ++ planned kind agenda) := by
  unfold planned
  rw [← filterMap_slot]
  exact (Agenda.perm_push s agenda).filterMap _

theorem planned_pop (kind : Turn ι τ → Option β) (h : agenda.pop? = some (s, left)) :
    (planned kind agenda).Perm
      (((kind s.item).map (s.due, ·)).toList ++ planned kind left) := by
  unfold planned
  rw [← filterMap_slot]
  exact (Agenda.perm_pop? h).filterMap _

namespace Sole

/-! ## §3. Tokens of other kinds. -/

theorem later {clock' : Nat} (h : Sole exact clock ready agenda kind token)
    (hle : exact → clock ≤ clock') : Sole exact clock' ready agenda kind token := by
  cases token with
  | none => exact h
  | some d =>
    rcases h with ⟨hready, hplanned, hdue⟩ | h
    · exact .inl ⟨hready, hplanned, fun he => Int.le_trans (hdue he) (Int.ofNat_le.2 (hle he))⟩
    · exact .inr h

/-- Only the turns of the kind count among those that are ready. -/
theorem of_ready {ready' : List (Turn ι τ)} (h : Sole exact clock ready agenda kind token)
    (hsame : ready'.filterMap kind = ready.filterMap kind) :
    Sole exact clock ready' agenda kind token := by
  cases token with
  | none => exact ⟨hsame.trans h.1, h.2⟩
  | some d =>
    rcases h with ⟨hready, hrest⟩ | ⟨hready, hrest⟩
    · exact .inl ⟨hsame.trans hready, hrest⟩
    · exact .inr ⟨hsame.trans hready, hrest⟩

theorem enqueue_other (h : Sole exact clock ready agenda kind token) (ht : kind t = none) :
    Sole exact clock (ready ++ [t]) agenda kind token := by
  apply h.of_ready
  simp [List.filterMap_append, ht]

theorem drop_other (h : Sole exact clock (t :: rest) agenda kind token) (ht : kind t = none) :
    Sole exact clock rest agenda kind token := by
  apply h.of_ready
  simp [ht]

/-- What is planned may be listed in another order: it is one turn at most. -/
theorem of_perm {agenda' : Agenda (Turn ι τ)} (h : Sole exact clock ready agenda kind token)
    (hp : (planned kind agenda').Perm (planned kind agenda)) :
    Sole exact clock ready agenda' kind token := by
  cases token with
  | none =>
    obtain ⟨hready, hplanned⟩ := h
    rw [hplanned] at hp
    exact ⟨hready, hp.eq_nil⟩
  | some d =>
    rcases h with ⟨hready, hplanned, hdue⟩ | ⟨hready, hplanned⟩
    · rw [hplanned] at hp
      exact .inl ⟨hready, hp.eq_nil, hdue⟩
    · rw [hplanned] at hp
      exact .inr ⟨hready, List.perm_singleton.1 hp⟩

theorem push_other (h : Sole exact clock ready agenda kind token) (hs : kind s.item = none) :
    Sole exact clock ready (agenda.push s) kind token := by
  have hp := planned_push kind s agenda
  rw [hs] at hp
  exact h.of_perm hp

theorem pop_other (h : Sole exact clock ready agenda kind token)
    (hpop : agenda.pop? = some (s, left)) (hs : kind s.item = none) :
    Sole exact clock ready left kind token := by
  have hp := planned_pop kind hpop
  rw [hs] at hp
  exact h.of_perm hp.symm

/-! ## §4. The token itself. -/

/-- A turn is ready from the start. -/
theorem enqueue_self {due : Int} (h : Sole exact clock ready agenda kind none)
    (ht : kind t = some b) (hdue : exact → due ≤ clock) :
    Sole exact clock (ready ++ [t]) agenda kind (some (due, b)) := by
  obtain ⟨hready, hplanned⟩ := h
  refine .inl ⟨?_, hplanned, hdue⟩
  rw [List.filterMap_append, hready]
  simp [ht]

/-- A turn is planned. -/
theorem push_self (h : Sole exact clock ready agenda kind none) (hs : kind s.item = some b) :
    Sole exact clock ready (agenda.push s) kind (some (s.due, b)) := by
  obtain ⟨hready, hplanned⟩ := h
  have hp := planned_push kind s agenda
  rw [hs, hplanned] at hp
  exact .inr ⟨hready, List.perm_singleton.1 hp⟩

/-- The turn is taken. -/
theorem drop_self (h : Sole exact clock (t :: rest) agenda kind token) (ht : kind t = some b) :
    ∃ due, token = some (due, b) ∧ (exact → due ≤ clock) ∧
      Sole exact clock rest agenda kind none := by
  -- The turn at the head is the token: it is the only one of its kind.
  have hcons : (t :: rest).filterMap kind = b :: rest.filterMap kind := by
    simp [ht]
  cases token with
  | none =>
    have := hcons.symm.trans h.1
    cases this
  | some d =>
    obtain ⟨due, b'⟩ := d
    rcases h with ⟨hready, hplanned, hdue⟩ | ⟨hready, -⟩
    · obtain ⟨rfl, hrest⟩ := List.cons.inj (hcons.symm.trans hready)
      exact ⟨due, rfl, hdue, hrest, hplanned⟩
    · have := hcons.symm.trans hready
      cases this

/-- A turn of the kind that is in the agenda is the token. -/
theorem eq_of_mem (h : Sole exact clock ready agenda kind token) (hs : s ∈ agenda.toList)
    (hkind : kind s.item = some b) : token = some (s.due, b) := by
  have hmem : (s.due, b) ∈ planned kind agenda :=
    List.mem_filterMap.2 ⟨s, hs, by rw [hkind]; rfl⟩
  -- The agenda has no turn of the kind but the token.
  cases token with
  | none =>
    rw [h.2] at hmem
    cases hmem
  | some d =>
    rcases h with ⟨-, hplanned, -⟩ | ⟨-, hplanned⟩
    · rw [hplanned] at hmem
      cases hmem
    · rw [hplanned] at hmem
      rw [List.mem_singleton.1 hmem]

/-- A turn that is due leaves the agenda for the queue. -/
theorem gather (h : Sole exact clock ready agenda kind token)
    (hpop : agenda.pop? = some (s, left)) (hdue : s.due ≤ clock) :
    Sole exact clock (ready ++ [s.item]) left kind token := by
  cases hs : kind s.item with
  | none => exact (h.pop_other hpop hs).enqueue_other hs
  | some b =>
    -- The slot is of the kind, so it must be the token, and the agenda held nothing else of it.
    have hp := planned_pop kind hpop
    rw [hs] at hp
    cases token with
    | none =>
      rw [h.2] at hp
      cases hp.symm.eq_nil
    | some d =>
      rcases h with ⟨-, hplanned, -⟩ | ⟨hready, hplanned⟩
      · rw [hplanned] at hp
        cases hp.symm.eq_nil
      · rw [hplanned] at hp
        obtain ⟨hd, hnil⟩ := List.cons.inj (List.perm_singleton.1 hp.symm)
        have hnone : Sole exact clock ready left kind none := ⟨hready, hnil⟩
        rw [show d = (s.due, b) from hd.symm]
        exact hnone.enqueue_self hs fun _ => hdue

end Sole

end Runner

end QuasiGrammar
