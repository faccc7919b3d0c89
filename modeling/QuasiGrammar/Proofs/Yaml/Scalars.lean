import QuasiGrammar.Proofs.Yaml.Tokens
import QuasiGrammar.Yaml.ScalarValue

/-
  QuasiGrammar.Proofs.Yaml.Scalars
  ────────────────────────────────
  The defects that scalars of each kind can have.  Only words for truth values,
  numbers and timestamps have any; octets that cannot be read are refused.
-/

namespace QuasiGrammar.Yaml

open Number Text

/-- The defects of scalars of a kind. -/
inductive ScalarDefect : Kind → Defect → Prop
  | notABoolean (word : String) : ScalarDefect .bool (.notABoolean word)
  | emptyInteger : ScalarDefect .int .emptyNumber
  | notAnInteger (base : Nat) (text : String) : ScalarDefect .int (.notAnInteger base text)
  | tooManyDigits {n : Nat} (h : maxDigits < n) : ScalarDefect .int (.tooManyDigits n)
  | emptyDecimal : ScalarDefect .float .emptyNumber
  | notADecimal (text : String) : ScalarDefect .float (.notADecimal text)
  | numberTooLarge : ScalarDefect .float .numberTooLarge
  | notADate : ScalarDefect .timestamp .notADate
  | calendar (part : CalendarPart) : ScalarDefect .timestamp (.calendar part)

/-- A step in reading a scalar of a kind ends in no other defect than those of the kind. -/
def ReadsScalar {α : Type} (kind : Kind) (x : Step α) : Prop :=
  Within (ScalarDefect kind) (fun _ => True) x

theorem readsScalar_bind {α β : Type} {kind : Kind} {x : Step α} {f : α → Step β}
    (hx : ReadsScalar kind x) (hf : ∀ a, ReadsScalar kind (f a)) : ReadsScalar kind (x >>= f) :=
  within_bind hx fun a _ => hf a

theorem readsScalar_map {α β : Type} {kind : Kind} {x : Step α} {f : α → β}
    (hx : ReadsScalar kind x) : ReadsScalar kind (f <$> x) :=
  within_map hx

theorem readsScalar_mapM {α β : Type} {kind : Kind} {f : α → Step β}
    (hf : ∀ a, ReadsScalar kind (f a)) (l : List α) : ReadsScalar kind (l.mapM f) := by
  induction l with
  | nil => exact trivial
  | cons a l ih =>
    rw [List.mapM_cons]
    exact readsScalar_bind (hf a) fun _ => readsScalar_bind ih fun _ => trivial

/-! ## §1. Integers. -/

/-- A numeral with too many digits has more than are read. -/
theorem lt_of_readDigits {base n : Nat} {cs : List Char}
    (h : readDigits base cs = .error (.tooLong n)) : maxDigits < n := by
  unfold readDigits at h
  simp only at h
  split at h
  · cases h
  · split at h
    · next hlong =>
      cases h
      exact of_decide_eq_true (Bool.and_eq_true_iff.1 hlong).1
    · split at h <;> cases h

theorem eq_error_of_map {ε α β : Type} {x : Except ε α} {f : α → β} {e : ε}
    (h : x.map f = .error e) : x = .error e := by
  cases x with
  | error e' =>
    cases h
    rfl
  | ok a => cases h

theorem lt_of_readInt {base n : Nat} {cs : List Char}
    (h : readInt base cs = .error (.tooLong n)) : maxDigits < n :=
  -- The digits are read as a natural number, which is then taken as an integer.
  lt_of_readDigits (eq_error_of_map (eq_error_of_map h))

theorem readsScalar_integerIn (base : Nat) (cs : List Char) : ReadsScalar .int (integerIn base cs) := by
  unfold integerIn
  split
  · exact trivial
  · exact .notAnInteger base _
  · next h => exact .tooManyDigits (lt_of_readInt h)

theorem readsScalar_magnitude (cs : List Char) : ReadsScalar .int (magnitude cs) := by
  unfold magnitude
  split
  · exact .emptyInteger
  · exact trivial
  · exact readsScalar_integerIn 2 _
  · exact readsScalar_integerIn 16 _
  · exact readsScalar_integerIn 8 _
  · split
    · exact readsScalar_map (readsScalar_mapM (readsScalar_integerIn 10) _)
    · exact readsScalar_integerIn 10 _

theorem readsScalar_intValue (cs : List Char) : ReadsScalar .int (intValue cs) := by
  refine readsScalar_bind ?_ fun _ => readsScalar_bind (readsScalar_magnitude _) fun _ => trivial
  unfold signed
  split
  · exact .emptyInteger
  · exact trivial

/-! ## §2. Numbers with a point. -/

theorem readsScalar_decimal (cs : List Char) : ReadsScalar .float (decimal cs) := by
  unfold decimal
  split
  · exact trivial
  · exact .notADecimal _

theorem readsScalar_sexagesimalSum (weight : Nat) (sum : Binary64) (digits : List Binary64) :
    ReadsScalar .float (sexagesimalSum weight sum digits) := by
  induction digits generalizing weight sum with
  | nil => exact trivial
  | cons d digits ih =>
    unfold sexagesimalSum
    split
    · exact .numberTooLarge
    · exact ih _ _

theorem readsScalar_floatValue (node : Nat) (cs : List Char) :
    ReadsScalar .float (floatValue node cs) := by
  refine readsScalar_bind ?_ fun p => ?_
  · unfold signed
    split
    · exact .emptyDecimal
    · exact trivial
  · simp only
    split
    · exact trivial
    · split
      · exact trivial
      · split
        · exact readsScalar_bind (readsScalar_mapM readsScalar_decimal _) fun _ =>
            readsScalar_map (readsScalar_sexagesimalSum _ _ _)
        · exact readsScalar_map (readsScalar_decimal _)

/-! ## §3. All kinds. -/

theorem readsScalar_boolValue (cs : List Char) : ReadsScalar .bool (boolValue cs) := by
  unfold boolValue
  simp only
  split
  · exact trivial
  · exact .notABoolean _

theorem readsScalar_timestampValue (cs : List Char) :
    ReadsScalar .timestamp (timestampValue cs) := by
  unfold timestampValue
  simp only
  split
  · exact .notADate
  · split
    · exact trivial
    · exact .calendar _

theorem readsScalar_octetsValue {kind : Kind} (cs : List Char) :
    ReadsScalar kind (octetsValue cs) := by
  unfold octetsValue
  split
  · split <;> exact trivial
  · exact trivial

theorem readsScalar_scalarValue (node : Nat) (kind : Kind) (cs : List Char) :
    ReadsScalar kind (scalarValue node kind cs) := by
  cases kind with
  | bool => exact readsScalar_map (readsScalar_boolValue cs)
  | int => exact readsScalar_map (readsScalar_intValue cs)
  | float => exact readsScalar_floatValue node cs
  | binary => exact readsScalar_map (readsScalar_octetsValue cs)
  | timestamp => exact readsScalar_timestampValue cs
  | _ => exact trivial

/-- **A scalar has no other defect than those of its kind.** -/
theorem scalarValue_defect {node : Nat} {kind : Kind} {cs : List Char} {d : Defect}
    (h : scalarValue node kind cs = .error (.defect d)) : ScalarDefect kind d := by
  have hreads := readsScalar_scalarValue node kind cs
  rw [h] at hreads
  exact hreads

end QuasiGrammar.Yaml
