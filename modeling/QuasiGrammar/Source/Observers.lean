/-
  QuasiGrammar.Source.Observers
  ─────────────────────────────
  Whoever wants to know of changes registers a callback and gets a handle.
  One callback may be registered several times, each time with a handle of its
  own.  The list of callbacks does not know the handles: disposing of a handle
  takes the first entry of its callback off the list, and a handle that was
  disposed of does nothing more.
-/

namespace QuasiGrammar

/-- The handle of a registration. -/
structure Handle (κ : Type) where
  callback : κ
  disposed : Bool
  deriving DecidableEq, Repr

/-- The registered callbacks, in the order of their registrations, and all handles ever given. -/
structure Observers (κ : Type) where
  listed : List κ
  handles : List (Handle κ)
  deriving Repr

namespace Observers

variable {κ : Type}

/-- No observers. -/
def none : Observers κ := ⟨[], []⟩

/-- Registers a callback; its handle comes last. -/
def observe (o : Observers κ) (k : κ) : Observers κ :=
  ⟨o.listed ++ [k], o.handles ++ [⟨k, false⟩]⟩

/-- The number of the handle that the next registration gets. -/
def nextHandle (o : Observers κ) : Nat := o.handles.length

/-- Disposes of the handle with a number. -/
def dispose [DecidableEq κ] (o : Observers κ) (i : Nat) : Observers κ :=
  match o.handles[i]? with
  -- Another registration of the same callback may lose its place instead.
  | some ⟨k, false⟩ => ⟨o.listed.erase k, o.handles.set i ⟨k, true⟩⟩
  | _ => o

/-- Whether the handle with a number has been disposed of. -/
def isDisposed (o : Observers κ) (i : Nat) : Bool := (o.handles[i]?).any (·.disposed)

theorem dispose_of_live [DecidableEq κ] {o : Observers κ} {i : Nat} {k : κ}
    (h : o.handles[i]? = some ⟨k, false⟩) :
    o.dispose i = ⟨o.listed.erase k, o.handles.set i ⟨k, true⟩⟩ := by
  simp only [dispose, h]

/-- Only a live handle can be disposed of. -/
theorem dispose_of_not_live [DecidableEq κ] {o : Observers κ} {i : Nat}
    (h : ∀ k, o.handles[i]? ≠ some ⟨k, false⟩) : o.dispose i = o := by
  unfold dispose
  split
  · next k hk => exact absurd hk (h k)
  · rfl

/-- A handle that was given is disposed of once it has been disposed of. -/
theorem isDisposed_dispose [DecidableEq κ] (o : Observers κ) {i : Nat} (h : i < o.nextHandle) :
    (o.dispose i).isDisposed i = true := by
  have hlt : i < o.handles.length := h
  cases hk : o.handles[i] with
  | mk k b => cases b <;> simp [dispose, isDisposed, hlt, hk]

/-- Disposing of a handle again changes nothing. -/
theorem dispose_dispose [DecidableEq κ] (o : Observers κ) (i : Nat) :
    (o.dispose i).dispose i = o.dispose i := by
  cases h : o.handles[i]? with
  | none => simp [dispose, h]
  | some handle =>
    obtain ⟨k, b⟩ := handle
    cases b with
    | true => simp [dispose, h]
    | false =>
      have hlt : i < o.handles.length := (List.getElem?_eq_some_iff.1 h).1
      rw [dispose_of_live h]
      simp [dispose, hlt]

end Observers

end QuasiGrammar
