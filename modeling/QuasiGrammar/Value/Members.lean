import QuasiGrammar.Value.Basic

/-
  QuasiGrammar.Value.Members
  ──────────────────────────
  The order in which a set lists its members.  Numbers are spread over the
  places of a table by their residues, and are listed in the order of their
  places; a set with members of other kinds lists them in the order in which
  they were added.

  Main statement: a set lists as many members as it has.
-/

namespace QuasiGrammar.Value

open Number

/-! ## §1. Residues. -/

/-- The modulus of residues, of which two to the power of 61 is the successor. -/
def residueModulus : Nat := Nat.pow 2 61 - 1

/-- The residue of the infinities. -/
def infiniteResidue : Nat := 314159

/-- A residue with its sign as a word of 64 bits; minus one is not in use, and minus two stands for
it. -/
def residueWord (negative : Bool) (residue : Nat) : Nat :=
  if negative && residue != 0 then Nat.pow 2 64 - (if residue = 1 then 2 else residue) else residue

/-- The residue of a number as a word. -/
def residue? : Value → Option Nat
  | .bool b => some (if b then 1 else 0)
  | .int i => some (residueWord (i < 0) (i.natAbs % residueModulus))
  | .float (.finite negative m e) =>
      some (residueWord negative (m * Nat.pow 2 (e % 61).toNat % residueModulus))
  | .float (.infinite negative) => some (residueWord negative infiniteResidue)
  | _ => none

/-! ## §2. Places. -/

/-- The number of places for some members. -/
def placeCount (members : Nat) : Nat := if members ≤ 4 then 8 else Nat.pow 2 ((2 * members).log2 + 1)

/-- The number of neighbours of a place that are tried after it, if the table has so many. -/
def neighbours : Nat := 9

/-- The places that are tried together. -/
def placesFrom (count i : Nat) : List Nat :=
  if i + neighbours < count then (List.range (neighbours + 1)).map (i + ·) else [i]

/-- The first free place for a word: a place and its neighbours are tried, and then others, for
which the word is shifted by five bits each time. -/
def freePlace (taken : List Nat) (count : Nat) : Nat → Nat → Nat → Nat
  | 0, i, _ => i
  | fuel + 1, i, word =>
      match (placesFrom count i).find? (!taken.contains ·) with
      | some place => place
      | none =>
          let word := word / 32
          freePlace taken count fuel ((i * 5 + 1 + word) % count) word

/-- The members of a set, with the residue of each, at their places, in the order of the places. -/
def placed (count : Nat) : List (Nat × Value) → List (Nat × Value) → List (Nat × Value)
  | table, [] => table.mergeSort fun a b => a.1 ≤ b.1
  | table, (word, v) :: rest =>
      let place := freePlace (table.map (·.1)) count (count + 16) (word % count) word
      placed count (table ++ [(place, v)]) rest

/-- The members of a set in the order in which it lists them. -/
def listed (members : List Value) : List Value :=
  match members.mapM fun v => (residue? v).map (·, v) with
  | none => members
  | some words => (placed (placeCount members.length) [] words).map (·.2)

theorem length_placed (count : Nat) (table words : List (Nat × Value)) :
    (placed count table words).length = table.length + words.length := by
  induction words generalizing table with
  | nil => simp [placed]
  | cons w rest ih =>
    obtain ⟨word, v⟩ := w
    simp only [placed, ih, List.length_append, List.length_cons, List.length_nil]
    omega

theorem length_of_mapM {α β : Type} {f : α → Option β} {xs : List α} {ys : List β}
    (h : xs.mapM f = some ys) : ys.length = xs.length := by
  induction xs generalizing ys with
  | nil => cases h; rfl
  | cons x xs ih =>
    simp only [List.mapM_cons, Option.bind_eq_bind, Option.bind_eq_some_iff] at h
    obtain ⟨y, _, zs, hz, he⟩ := h
    cases he
    simp [ih hz]

theorem length_listed (members : List Value) : (listed members).length = members.length := by
  unfold listed
  split
  · rfl
  · next h => simp [length_placed, length_of_mapM h]

end QuasiGrammar.Value
