/-
  QuasiGrammar.Total
  ──────────────────
  Totals over lists: what the items of a list amount to, each by a measure.
-/

namespace QuasiGrammar

variable {α : Type}

/-- The total of a measure over the items of a list. -/
def total (measure : α → Nat) : List α → Nat
  | [] => 0
  | a :: rest => measure a + total measure rest

@[simp] theorem total_nil (measure : α → Nat) : total measure [] = 0 := rfl

@[simp] theorem total_cons (measure : α → Nat) (a : α) (rest : List α) :
    total measure (a :: rest) = measure a + total measure rest := rfl

theorem total_append (measure : α → Nat) (before after : List α) :
    total measure (before ++ after) = total measure before + total measure after := by
  induction before with
  | nil => exact (Nat.zero_add _).symm
  | cons a rest ih =>
    show measure a + total measure (rest ++ after) = _
    rw [ih, total_cons, Nat.add_assoc]

/-- What keeps the measure of every item keeps the total. -/
theorem total_map {measure : α → Nat} {f : α → α} (h : ∀ a, measure (f a) = measure a)
    (as : List α) : total measure (as.map f) = total measure as := by
  induction as with
  | nil => rfl
  | cons a rest ih => rw [List.map_cons, total_cons, total_cons, h a, ih]

/-- The order of the items does not count. -/
theorem total_perm (measure : α → Nat) {as bs : List α} (h : as.Perm bs) :
    total measure as = total measure bs := by
  induction h with
  | nil => rfl
  | cons a _ ih => rw [total_cons, total_cons, ih]
  | swap a b rest =>
    rw [total_cons, total_cons, total_cons, total_cons]
    omega
  | trans _ _ ih₁ ih₂ => exact ih₁.trans ih₂

end QuasiGrammar
