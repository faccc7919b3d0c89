import Mathlib
import QuasiGrammar.Debounce.Agenda

/-
  QuasiGrammar.Proofs.Debounce.Heap
  ─────────────────────────────────
  **The head of an agenda is due first.**

  No slot of an agenda is due before its parent (`Agenda.Ordered`).  A slot that
  rises or sinks breaks this order at one place only; the places around it are
  in order without it, so that the order is whole again once it has come to
  rest.  A place beyond the end counts as never due, which spares all proofs the
  question whether a child is there.
-/

namespace QuasiGrammar

namespace Agenda

variable {α : Type} {slots : Array (Slot α)} {a rest : Agenda α} {s : Slot α} {i j : Nat}

/-! ## §1. Times and places. -/

/-- When the slot at a place is due; never, if there is none. -/
def dueAt (slots : Array (Slot α)) (i : Nat) : WithTop Int :=
  match slots[i]? with
  | none => ⊤
  | some s => (s.due : Int)

/-- The place above a place. -/
def parent (i : Nat) : Nat := (i - 1) / 2

theorem parent_zero : parent 0 = 0 := rfl

theorem parent_lt (h : i ≠ 0) : parent i < i := by
  unfold parent
  omega

theorem parent_eq_iff (h : j ≠ 0) : parent j = i ↔ j = 2 * i + 1 ∨ j = 2 * i + 2 := by
  unfold parent
  omega

theorem dueAt_of_size_le (h : slots.size ≤ i) : dueAt slots i = ⊤ := by
  unfold dueAt
  rw [Array.getElem?_eq_none h]

theorem isEarlier_iff (hi : i < slots.size) (hj : j < slots.size) :
    isEarlier slots i j = true ↔ dueAt slots i < dueAt slots j := by
  unfold isEarlier dueAt
  rw [Array.getElem?_eq_getElem hi, Array.getElem?_eq_getElem hj]
  simp

theorem dueAt_swap (hi : i < slots.size) (hj : j < slots.size) (k : Nat) :
    dueAt (slots.swapIfInBounds i j) k =
      if k = i then dueAt slots j else if k = j then dueAt slots i else dueAt slots k := by
  have hswap : slots.swapIfInBounds i j = slots.swap i j hi hj := by
    rw [Array.swapIfInBounds_def, dif_pos hi, dif_pos hj]
  unfold dueAt
  rw [hswap, Array.getElem?_swap]
  by_cases hki : k = i
  · subst hki
    by_cases hkj : k = j
    · subst hkj
      rw [if_pos rfl, if_pos rfl, Array.getElem?_eq_getElem hi]
    · rw [if_neg (Ne.symm hkj), if_pos rfl, if_pos rfl, Array.getElem?_eq_getElem hj]
  · by_cases hkj : k = j
    · subst hkj
      rw [if_pos rfl, if_neg hki, if_pos rfl, Array.getElem?_eq_getElem hi]
    · rw [if_neg (Ne.symm hkj), if_neg (Ne.symm hki), if_neg hki, if_neg hkj]

theorem dueAt_swap_left (hi : i < slots.size) (hj : j < slots.size) :
    dueAt (slots.swapIfInBounds i j) i = dueAt slots j := by
  rw [dueAt_swap hi hj, if_pos rfl]

theorem dueAt_swap_right (hi : i < slots.size) (hj : j < slots.size) (hji : j ≠ i) :
    dueAt (slots.swapIfInBounds i j) j = dueAt slots i := by
  rw [dueAt_swap hi hj, if_neg hji, if_pos rfl]

theorem dueAt_swap_of_ne (hi : i < slots.size) (hj : j < slots.size) {k : Nat} (hki : k ≠ i)
    (hkj : k ≠ j) : dueAt (slots.swapIfInBounds i j) k = dueAt slots k := by
  rw [dueAt_swap hi hj, if_neg hki, if_neg hkj]

/-! ## §2. The order. -/

/-- No slot is due before its parent. -/
def Ordered (slots : Array (Slot α)) : Prop := ∀ k, dueAt slots (parent k) ≤ dueAt slots k

/-- All is in order but the slot at one place, which may be due before its parent. -/
structure Rising (slots : Array (Slot α)) (i : Nat) : Prop where
  others : ∀ k, k ≠ i → dueAt slots (parent k) ≤ dueAt slots k
  below : ∀ k, parent k = i → k ≠ 0 → dueAt slots (parent i) ≤ dueAt slots k

/-- All is in order but the slot at one place, which may be due at any time. -/
structure Sinking (slots : Array (Slot α)) (i : Nat) : Prop where
  others : ∀ k, k ≠ i → parent k ≠ i → dueAt slots (parent k) ≤ dueAt slots k
  below : ∀ k, parent k = i → k ≠ 0 → i ≠ 0 → dueAt slots (parent i) ≤ dueAt slots k

/-- The first slot is due first. -/
theorem Ordered.head_le (h : Ordered slots) (k : Nat) : dueAt slots 0 ≤ dueAt slots k := by
  induction k using Nat.strongRecOn with
  | _ k ih =>
    by_cases hk : k = 0
    · rw [hk]
    · exact (ih _ (parent_lt hk)).trans (h k)

/-! ## §3. Rising. -/

/-- A slot that has risen to its parent's place breaks the order there only. -/
theorem Rising.swap (h : Rising slots i) (hi0 : i ≠ 0) (hi : i < slots.size)
    (hlt : dueAt slots i < dueAt slots (parent i)) :
    Rising (slots.swapIfInBounds i (parent i)) (parent i) := by
  have hpi := parent_lt hi0
  have hat_i := dueAt_swap_left hi (hpi.trans hi)
  have hat_p := dueAt_swap_right hi (hpi.trans hi) (Nat.ne_of_lt hpi)
  have hat := fun k => dueAt_swap_of_ne hi (hpi.trans hi) (k := k)
  -- The other child of the same parent is due after the parent, as before.
  have hsibling : ∀ k, k ≠ i → parent k = parent i → dueAt slots (parent i) ≤ dueAt slots k := by
    intro k hki hkp
    rw [← hkp]
    exact h.others k hki
  constructor
  · intro k hkp
    -- The place that was left holds the parent, which is due later.
    by_cases hki : k = i
    · rw [hki, hat_i, hat_p]
      exact hlt.le
    · rw [hat k hki hkp]
      -- Its children have the parent above them now.
      by_cases hkpi : parent k = i
      · have hk0 : k ≠ 0 := by
          rintro rfl
          exact hki hkpi
        rw [hkpi, hat_i]
        exact h.below k hkpi hk0
      · -- The other child has the slot above it now; nothing else has moved.
        by_cases hkpp : parent k = parent i
        · rw [hkpp, hat_p]
          exact hlt.le.trans (hsibling k hki hkpp)
        · rw [hat _ hkpi hkpp]
          exact h.others k hki
  · intro k hkp hk0
    by_cases hp0 : parent i = 0
    · -- The slot is at the top now: nothing is above it.
      rw [hp0, parent_zero, ← hp0, hat_p]
      by_cases hki : k = i
      · rw [hki, hat_i]
        exact hlt.le
      · have hne : k ≠ parent i := by omega
        rw [hat k hki hne]
        exact hlt.le.trans (hsibling k hki hkp)
    · -- The grandparent was not due after the parent.
      have hpp := parent_lt hp0
      have habove := h.others (parent i) (Nat.ne_of_lt hpi)
      rw [hat (parent (parent i)) (by omega) (Nat.ne_of_lt hpp)]
      by_cases hki : k = i
      · rw [hki, hat_i]
        exact habove
      · have hlt' := parent_lt hk0
        rw [hat k hki (by omega)]
        exact habove.trans (hsibling k hki hkp)

/-- A slot that is not due before its parent is at rest. -/
theorem Rising.ordered (h : Rising slots i) (hle : dueAt slots (parent i) ≤ dueAt slots i) :
    Ordered slots := by
  intro k
  by_cases hk : k = i
  · rw [hk]
    exact hle
  · exact h.others k hk

theorem ordered_rise {fuel : Nat} (hfuel : i ≤ fuel) (hi : i < slots.size)
    (h : Rising slots i) : Ordered (rise fuel i slots) := by
  -- A slot can rise as often as its place has parents.
  induction fuel generalizing i slots with
  | zero =>
    have hi0 : i = 0 := Nat.le_zero.1 hfuel
    subst hi0
    exact h.ordered (le_refl _)
  | succ fuel ih =>
    unfold rise
    have hpar : parent i < slots.size := by
      unfold parent
      omega
    by_cases hlt : isEarlier slots i ((i - 1) / 2) = true
    · simp only [if_pos hlt]
      have hlt := (isEarlier_iff hi hpar).1 hlt
      -- The top is its own parent, and not earlier than itself.
      have hi0 : i ≠ 0 := by
        rintro rfl
        exact absurd hlt (lt_irrefl _)
      have hpi := parent_lt hi0
      refine ih ?_ ?_ (h.swap hi0 hi hlt)
      · show parent i ≤ fuel
        omega
      · rw [Array.size_swapIfInBounds]
        exact hpar
    · simp only [if_neg hlt]
      exact h.ordered (not_lt.1 fun hl => hlt ((isEarlier_iff hi hpar).2 hl))

/-! ## §4. Sinking. -/

/-- The child that a slot is exchanged with is not due after the other one. -/
theorem sinkingChild_spec (h : 2 * i + 1 < slots.size) :
    sinkingChild slots i ≠ 0 ∧ parent (sinkingChild slots i) = i ∧
      sinkingChild slots i < slots.size ∧
        ∀ k, parent k = i → k ≠ 0 → dueAt slots (sinkingChild slots i) ≤ dueAt slots k := by
  unfold sinkingChild
  by_cases hright : 2 * i + 1 + 1 < slots.size
  · have hear := isEarlier_iff h hright
    -- Both children are there: the left one is taken if it is earlier.
    by_cases hlt : isEarlier slots (2 * i + 1) (2 * i + 1 + 1) = true
    · simp only [hlt, Bool.not_true, Bool.and_false, Bool.false_eq_true, if_false]
      refine ⟨by omega, by unfold parent; omega, h, ?_⟩
      intro k hk hk0
      rcases (parent_eq_iff hk0).1 hk with rfl | rfl
      · exact le_refl _
      · exact (hear.1 hlt).le
    · have hle : dueAt slots (2 * i + 1 + 1) ≤ dueAt slots (2 * i + 1) :=
        not_lt.1 fun hl => hlt (hear.2 hl)
      simp only [Bool.not_eq_true] at hlt
      simp only [hright, hlt, decide_true, Bool.not_false, Bool.and_true, if_true]
      refine ⟨by omega, by unfold parent; omega, trivial, ?_⟩
      intro k hk hk0
      rcases (parent_eq_iff hk0).1 hk with rfl | rfl
      · exact hle
      · exact le_refl _
  · -- There is only the left child.
    simp only [hright, decide_false, Bool.false_and, Bool.false_eq_true, if_false]
    refine ⟨by omega, by unfold parent; omega, h, ?_⟩
    intro k hk hk0
    rcases (parent_eq_iff hk0).1 hk with rfl | rfl
    · exact le_refl _
    · rw [dueAt_of_size_le (i := 2 * i + 2) (by omega)]
      exact le_top

/-- A slot that has sunk to its earlier child's place breaks the order there only. -/
theorem Sinking.swap {c : Nat} (h : Sinking slots i) (hc0 : c ≠ 0) (hci : parent c = i)
    (hc : c < slots.size) (hmin : ∀ k, parent k = i → k ≠ 0 → dueAt slots c ≤ dueAt slots k) :
    Sinking (slots.swapIfInBounds i c) c := by
  have hlt : i < c := hci ▸ parent_lt hc0
  have hat_i := dueAt_swap_left (hlt.trans hc) hc
  have hat := fun k => dueAt_swap_of_ne (hlt.trans hc) hc (k := k)
  constructor
  · intro k hkc hpc
    -- The child that has come up is not due before what is above it.
    by_cases hki : k = i
    · subst hki
      by_cases hk0 : k = 0
      · rw [hk0, parent_zero]
      · have hp := parent_lt hk0
        rw [hat_i, hat _ (by omega) hpc]
        exact h.below c hci hc0 hk0
    · rw [hat k hki hkc]
      -- Nor is the other child due before it.
      by_cases hpi : parent k = i
      · have hk0 : k ≠ 0 := by
          rintro rfl
          exact hki hpi
        rw [hpi, hat_i]
        exact hmin k hpi hk0
      · rw [hat _ hpi hpc]
        exact h.others k hki hpi
  · intro k hkc hk0 _
    -- What was below the child is below the slot now.
    have hlt' := parent_lt hk0
    rw [hci, hat_i, hat k (by omega) (by omega), ← hkc]
    exact h.others k (by omega) (by omega)

/-- At the bottom there is nothing below a slot, which may only have to rise. -/
theorem Sinking.rising (h : Sinking slots i) (hleaf : ¬ 2 * i + 1 < slots.size) :
    Rising slots i := by
  have htop : ∀ k, parent k = i → k ≠ 0 → dueAt slots k = ⊤ := by
    intro k hk hk0
    rcases (parent_eq_iff hk0).1 hk with rfl | rfl
    · exact dueAt_of_size_le (by omega)
    · exact dueAt_of_size_le (by omega)
  constructor
  · intro k hk
    by_cases hpk : parent k = i
    · have hk0 : k ≠ 0 := by
        rintro rfl
        exact hk hpk
      rw [htop k hpk hk0]
      exact le_top
    · exact h.others k hk hpk
  · intro k hk hk0
    rw [htop k hk hk0]
    exact le_top

theorem ordered_sink {fuel : Nat} (hfuel : slots.size ≤ fuel + i) (hi : i < slots.size)
    (h : Sinking slots i) : Ordered (sink fuel i slots) := by
  -- Every step sinks the slot by one place at least.
  induction fuel generalizing i slots with
  | zero => exact ordered_rise (Nat.le_refl i) hi (h.rising (by omega))
  | succ fuel ih =>
    unfold sink
    by_cases hchild : 2 * i + 1 < slots.size
    · simp only [if_pos hchild]
      obtain ⟨hc0, hci, hc, hmin⟩ := sinkingChild_spec hchild
      have hlt := parent_lt hc0
      refine ih ?_ ?_ (h.swap hc0 hci hc hmin)
      · rw [Array.size_swapIfInBounds]
        omega
      · rw [Array.size_swapIfInBounds]
        exact hc
    · simp only [if_neg hchild]
      exact ordered_rise (Nat.le_refl i) hi (h.rising hchild)

/-! ## §5. Adding and taking. -/

theorem ordered_of_size_eq_zero (h : slots.size = 0) : Ordered slots := by
  intro k
  rw [dueAt_of_size_le (i := k) (by omega)]
  exact le_top

theorem ordered_empty : Ordered (empty : Agenda α).slots := ordered_of_size_eq_zero rfl

theorem ordered_push (h : Ordered a.slots) (s : Slot α) : Ordered (a.push s).slots := by
  have hsame : ∀ k, k ≠ a.slots.size → dueAt (a.slots.push s) k = dueAt a.slots k := by
    intro k hk
    unfold dueAt
    rw [Array.getElem?_push, if_neg hk]
  unfold push
  refine ordered_rise (Nat.le_refl _) ?_ ⟨?_, ?_⟩
  · rw [Array.size_push]
    exact Nat.lt_succ_self _
  · intro k hk
    have hk : k ≠ a.slots.size := hk
    rw [hsame k hk]
    by_cases hbeyond : a.slots.size < k
    · rw [dueAt_of_size_le hbeyond.le]
      exact le_top
    · rw [hsame (parent k) (by unfold parent; omega)]
      exact h k
  · intro k hk hk0
    have hlt := parent_lt hk0
    have hsize : parent k = a.slots.size := hk
    rw [dueAt_of_size_le (i := k) (by rw [Array.size_push]; omega)]
    exact le_top

/-- The last slot has been put to the top, and nothing else has moved. -/
theorem sinking_setIfInBounds (h : Ordered slots) (last : Slot α) :
    Sinking (slots.pop.setIfInBounds 0 last) 0 := by
  have hsize : (slots.pop.setIfInBounds 0 last).size = slots.size - 1 := by
    rw [Array.size_setIfInBounds, Array.size_pop]
  have hat : ∀ k, k ≠ 0 → k < slots.size - 1 →
      dueAt (slots.pop.setIfInBounds 0 last) k = dueAt slots k := by
    intro k hk hks
    unfold dueAt
    rw [Array.getElem?_setIfInBounds_ne (Ne.symm hk), Array.getElem?_pop, if_pos hks]
  constructor
  · intro k hk hpk
    by_cases hin : k < slots.size - 1
    · have hlt := parent_lt hk
      rw [hat k hk hin, hat (parent k) hpk (by omega)]
      exact h k
    · rw [dueAt_of_size_le (i := k) (by omega)]
      exact le_top
  · intro k _ _ hne
    exact absurd rfl hne

theorem ordered_pop? (h : Ordered a.slots) (hpop : a.pop? = some (s, rest)) :
    Ordered rest.slots := by
  unfold pop? at hpop
  split at hpop
  · next first last hfirst hlast =>
    cases hpop
    show Ordered (sink a.slots.pop.size 0 (a.slots.pop.setIfInBounds 0 last))
    have hsize : (a.slots.pop.setIfInBounds 0 last).size = a.slots.pop.size :=
      Array.size_setIfInBounds
    by_cases hempty : a.slots.pop.size = 0
    · -- It was the only slot.
      rw [hempty]
      exact ordered_of_size_eq_zero (hsize.trans hempty)
    · refine ordered_sink ?_ ?_ (sinking_setIfInBounds h last)
      · rw [hsize]
        exact Nat.le_refl _
      · rw [hsize]
        exact Nat.pos_of_ne_zero hempty
  · cases hpop

theorem head?_of_pop? (h : a.pop? = some (s, rest)) : a.head? = some s := by
  unfold pop? at h
  split at h
  · next first last hfirst hlast =>
    cases h
    exact hfirst
  · cases h

theorem head?_of_pop?_none (h : a.pop? = none) : a.head? = none := by
  unfold pop? at h
  split at h
  · cases h
  · next hnone =>
    -- A last slot is there as soon as a first one is.
    cases hhead : a.head? with
    | none => rfl
    | some first =>
      have hpos := (Array.getElem?_eq_some_iff.1 hhead).1
      have hback : a.slots.back? = some a.slots[a.slots.size - 1] := by
        unfold Array.back?
        exact Array.getElem?_eq_getElem _
      exact absurd hback (hnone first _ hhead)

theorem exists_pop?_of_head? (h : a.head? = some s) : ∃ left, a.pop? = some (s, left) := by
  cases hpop : a.pop? with
  | none => cases h.symm.trans (head?_of_pop?_none hpop)
  | some p =>
    obtain ⟨first, left⟩ := p
    cases h.symm.trans (head?_of_pop? hpop)
    exact ⟨left, rfl⟩

theorem size_pop? (h : a.pop? = some (s, rest)) : a.size = rest.size + 1 :=
  (perm_pop? h).length_eq

theorem mem_of_head? (h : a.head? = some s) : s ∈ a.toList :=
  List.mem_of_getElem? ((Array.getElem?_toList ..).trans h)

theorem exists_head?_of_mem (h : s ∈ a.toList) : ∃ first, a.head? = some first := by
  have hpos : 0 < a.slots.size := Array.size_pos_of_mem (Array.mem_toList_iff.1 h)
  exact ⟨_, Array.getElem?_eq_getElem hpos⟩

/-- No slot of an agenda in order is due before its head. -/
theorem due_head_le (h : Ordered a.slots) {first : Slot α} (hhead : a.head? = some first)
    (hs : s ∈ a.toList) : first.due ≤ s.due := by
  obtain ⟨k, hk⟩ := List.mem_iff_getElem?.1 hs
  have hle := h.head_le k
  have hat0 : dueAt a.slots 0 = (first.due : Int) := by
    unfold dueAt
    rw [show a.slots[0]? = some first from hhead]
  have hatk : dueAt a.slots k = (s.due : Int) := by
    unfold dueAt
    rw [show a.slots[k]? = some s from (Array.getElem?_toList ..).symm.trans hk]
  rw [hat0, hatk] at hle
  exact WithTop.coe_le_coe.1 hle

end Agenda

end QuasiGrammar
