/-
  QuasiGrammar.Debounce.Agenda
  ────────────────────────────
  Things that are due at some time, the earliest first, as a binary heap: the
  children of the slot at `i` are at `2 i + 1` and `2 i + 2` and are not due
  before it.  Which of two things that are due at one time comes first is
  decided by where they stand in the heap:

      push    a new slot at the end rises while it is due before its parent
      pop?    the last slot takes the place of the first one; it sinks to the
              bottom along the earlier children, the right one of two that are
              due at one time, and rises again from there

  Main statement: both keep what is in the agenda, up to its order.
-/

namespace QuasiGrammar

/-- A thing and the time at which it is due. -/
structure Slot (α : Type) where
  due : Int
  item : α
  deriving Repr

/-- Things that are due at some time. -/
structure Agenda (α : Type) where
  slots : Array (Slot α)
  deriving Repr

namespace Agenda

variable {α : Type}

/-- Nothing is due. -/
def empty : Agenda α := ⟨#[]⟩

/-- The number of things. -/
def size (a : Agenda α) : Nat := a.slots.size

/-- The thing that comes first. -/
def head? (a : Agenda α) : Option (Slot α) := a.slots[0]?

/-! ## §1. Rising and sinking. -/

/-- Whether the slot at one place is due before the one at another. -/
def isEarlier (slots : Array (Slot α)) (i j : Nat) : Bool :=
  match slots[i]?, slots[j]? with
  | some s, some t => s.due < t.due
  | _, _ => false

/-- Exchanges a slot with its parent while it is due before it, at most so often. -/
def rise : Nat → Nat → Array (Slot α) → Array (Slot α)
  | 0, _, slots => slots
  | fuel + 1, i, slots =>
      let parent := (i - 1) / 2
      if isEarlier slots i parent then rise fuel parent (slots.swapIfInBounds i parent) else slots

/-- The child that a slot is exchanged with when it sinks. -/
def sinkingChild (slots : Array (Slot α)) (i : Nat) : Nat :=
  let left := 2 * i + 1
  let right := left + 1
  if right < slots.size && !isEarlier slots left right then right else left

/-- Exchanges a slot with its children down to the bottom, in at most so many steps, and lets it
rise from there. -/
def sink : Nat → Nat → Array (Slot α) → Array (Slot α)
  | 0, i, slots => rise i i slots
  | fuel + 1, i, slots =>
      if 2 * i + 1 < slots.size then
        let child := sinkingChild slots i
        sink fuel child (slots.swapIfInBounds i child)
      else rise i i slots

/-! ## §2. Adding and taking. -/

/-- Adds a thing. -/
def push (s : Slot α) (a : Agenda α) : Agenda α := ⟨rise a.size a.size (a.slots.push s)⟩

/-- Takes the thing that comes first. -/
def pop? (a : Agenda α) : Option (Slot α × Agenda α) :=
  match a.head?, a.slots.back? with
  | some first, some last =>
      let rest := a.slots.pop
      some (first, ⟨sink rest.size 0 (rest.setIfInBounds 0 last)⟩)
  | _, _ => none

/-! ## §3. What is in an agenda. -/

theorem perm_swapIfInBounds (slots : Array (Slot α)) (i j : Nat) :
    (slots.swapIfInBounds i j).Perm slots := by
  unfold Array.swapIfInBounds
  split
  · split
    · exact Array.swap_perm _ _
    · exact .refl _
  · exact .refl _

theorem perm_rise (fuel i : Nat) (slots : Array (Slot α)) : (rise fuel i slots).Perm slots := by
  induction fuel generalizing i slots with
  | zero => exact .refl _
  | succ fuel ih =>
    simp only [rise]
    split
    · exact (ih _ _).trans (perm_swapIfInBounds slots _ _)
    · exact .refl _

theorem perm_sink (fuel i : Nat) (slots : Array (Slot α)) : (sink fuel i slots).Perm slots := by
  induction fuel generalizing i slots with
  | zero => exact perm_rise _ _ _
  | succ fuel ih =>
    simp only [sink]
    split
    · exact (ih _ _).trans (perm_swapIfInBounds slots _ _)
    · exact perm_rise _ _ _

/-- The things in an agenda. -/
def toList (a : Agenda α) : List (Slot α) := a.slots.toList

theorem perm_push (s : Slot α) (a : Agenda α) : (a.push s).toList.Perm (s :: a.toList) := by
  refine (perm_rise _ _ _).toList.trans ?_
  simp [toList, List.perm_append_singleton]

theorem perm_pop? {a rest : Agenda α} {s : Slot α} (h : a.pop? = some (s, rest)) :
    a.toList.Perm (s :: rest.toList) := by
  obtain ⟨⟨slots⟩⟩ := a
  cases slots with
  | nil => simp [pop?, head?] at h
  | cons first tail =>
    rcases List.eq_nil_or_concat tail with rfl | ⟨middle, last, rfl⟩
    · simp only [pop?, head?] at h
      cases h
      simp [toList, sink, rise]
    · have hl : first :: middle.concat last = (first :: middle).concat last := rfl
      have hhead : (first :: middle.concat last).toArray[0]? = some first := by simp
      have hback : (first :: middle.concat last).toArray.back? = some last := by
        rw [hl, List.back?_toArray, List.concat_eq_append, List.getLast?_concat]
      have hpop : (first :: middle.concat last).toArray.pop = (first :: middle).toArray := by
        rw [hl, List.pop_toArray, List.concat_eq_append, List.dropLast_concat]
      simp only [pop?, head?, hhead, hback, hpop, Option.some.injEq, Prod.mk.injEq] at h
      obtain ⟨rfl, rfl⟩ := h
      simp only [toList, List.concat_eq_append]
      refine (List.Perm.cons _ (List.perm_append_singleton _ _)).trans (List.Perm.cons _ ?_)
      refine .symm ((perm_sink _ _ _).toList.trans ?_)
      simp

end Agenda

end QuasiGrammar
