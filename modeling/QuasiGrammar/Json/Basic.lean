import QuasiGrammar.Number.Binary64

/-
  QuasiGrammar.Json.Basic
  ───────────────────────
  A JSON value keeps the order of an object's fields, since documents are
  compared and printed in that order.  Integers are exact and apart from the
  numbers with a point or an exponent.
-/

namespace QuasiGrammar

open Number

/-- A JSON value. -/
inductive Json where
  | null
  | bool (b : Bool)
  | int (i : Int)
  | float (x : Binary64)
  | text (s : String)
  | array (items : List Json)
  | object (fields : List (String × Json))
  deriving Repr, Inhabited

namespace Json

/-- Sets a field of an object: a field of that name keeps its place, a new one goes last. -/
def setField (key : String) (value : Json) : List (String × Json) → List (String × Json)
  | [] => [(key, value)]
  | (k, v) :: rest => if k = key then (k, value) :: rest else (k, v) :: setField key value rest

/-- The value of a field. -/
def field? (key : String) : List (String × Json) → Option Json
  | [] => none
  | (k, v) :: rest => if k = key then some v else field? key rest

/-- The value of a field of an object; other values have no fields. -/
def get? (key : String) : Json → Option Json
  | .object fields => field? key fields
  | _ => none

/-- The object whose fields are set one after another. -/
def ofFields (fields : List (String × Json)) : Json :=
  .object (fields.foldl (fun acc f => setField f.1 f.2 acc) [])

theorem field?_setField_self (key : String) (value : Json) (fields : List (String × Json)) :
    field? key (setField key value fields) = some value := by
  induction fields with
  | nil => simp [setField, field?]
  | cons f rest ih => by_cases h : f.1 = key <;> simp [setField, field?, h, ih]

theorem field?_setField_of_ne {key other : String} (h : other ≠ key) (value : Json)
    (fields : List (String × Json)) :
    field? other (setField key value fields) = field? other fields := by
  induction fields with
  | nil => simp [setField, field?, h.symm]
  | cons f rest ih =>
    by_cases hk : f.1 = key
    · simp [setField, field?, hk, h.symm]
    · by_cases ho : f.1 = other
      · subst ho; simp [setField, field?, h]
      · simp [setField, field?, hk, ho, ih]

end Json

end QuasiGrammar
