import QuasiGrammar.Schema.Basic
import QuasiGrammar.Value.Printer

/-
  QuasiGrammar.Schema.Check
  ─────────────────────────
  All faults of a value under a schema, in the order in which they are met:
  the keywords of a schema as they are written, properties in the order of the
  schema, items by index, other fields in the order of the value.  A fault
  names the value that violates a keyword by the way that leads to it.

  The first fault decides: `Schema.check` gives it, or nothing when the value
  fits the schema.
-/

namespace QuasiGrammar

open Text

/-! ## §1. Faults. -/

/-- A step from a value to one that it holds. -/
inductive Step where
  | key (name : String)
  | index (i : Nat)
  deriving DecidableEq, Repr

/-- The text of a step. -/
def Step.text : Step → String
  | .key name => name
  | .index i => toString i

/-- What is wrong with a value. -/
inductive Violation where
  | wrongType (value : Json) (expected : JsonType)
  | missing (name : String)
  | unexpected (names : List String)
  /-- A text or an array is too short; the bound is the least length. -/
  | tooShort (value : Json) (bound : Nat)
  /-- An array is too long; the bound is the greatest length. -/
  | tooLong (value : Json) (bound : Nat)
  | noMatch (text : String) (form : TextForm)
  deriving Repr

/-- A violation, and the way that leads to the value. -/
structure SchemaFault where
  path : List Step
  violation : Violation
  deriving Repr

/-- The text of a JSON value inside a message.  Integers are shown whole, however many digits they
have; the limit of `Value.shownText` is left out, for a check that runs into it ends without a
message. -/
def Json.shown (v : Json) : String := String.ofList (Value.ofJson v).shown

/-- The text of a violation. -/
def Violation.message : Violation → String
  | .wrongType value expected => value.shown ++ " is not of type " ++ quote expected.name
  | .missing name => quote name ++ " is a required property"
  | .unexpected names =>
      "Additional properties are not allowed (" ++ ", ".intercalate (names.map quote)
        ++ (if names.length = 1 then " was" else " were") ++ " unexpected)"
  | .tooShort value bound =>
      value.shown ++ (if bound = 1 then " should be non-empty" else " is too short")
  | .tooLong value bound =>
      value.shown ++ (if bound = 0 then " is expected to be empty" else " is too long")
  | .noMatch text form => quote text ++ " does not match " ++ quote form.source

/-- The text of a way. -/
def pathText (path : List Step) : String := ".".intercalate (path.map Step.text)

/-- The text of a fault: the violation, and the way to the value unless the way has no text. -/
def SchemaFault.message (f : SchemaFault) : String :=
  f.violation.message ++ (if pathText f.path = "" then "" else " at " ++ pathText f.path)

/-- A fault of a value that a step leads to. -/
def SchemaFault.under (step : Step) (f : SchemaFault) : SchemaFault :=
  { f with path := step :: f.path }

/-! ## §2. The faults of a value. -/

/-- The type of a value that a schema can ask for. -/
def Json.type? : Json → Option JsonType
  | .object _ => some .object
  | .array _ => some .array
  | .text _ => some .string
  | _ => none

/-- The names of an object's fields. -/
def Json.keys : Json → List String
  | .object fields => fields.map Prod.fst
  | _ => []

/-- The items of an array. -/
def Json.items : Json → List Json
  | .array vs => vs
  | _ => []

/-- The fields of an object that are none of the given ones. -/
def Json.otherFields (known : List String) : Json → List (String × Json)
  | .object fields => fields.filter fun f => !known.contains f.1
  | _ => []

/-- A fault of the value itself, if a condition holds. -/
def faultIf (condition : Bool) (violation : Violation) : List SchemaFault :=
  if condition then [⟨[], violation⟩] else []

/-- The faults of a keyword that looks at the value alone and not into it. -/
def Keyword.ownFaults (known : List String) (v : Json) : Keyword → List SchemaFault
  | .type t => faultIf (v.type? != some t) (.wrongType v t)
  | .required names =>
      match v with
      | .object fields =>
          (names.filter fun name => (Json.field? name fields).isNone).map fun name =>
            ⟨[], .missing name⟩
      | _ => []
  | .closed =>
      let names := (v.otherFields known).map Prod.fst
      faultIf (!names.isEmpty) (.unexpected (names.mergeSort (· ≤ ·)))
  | .minLength n =>
      match v with
      | .text s => faultIf (s.length < n) (.tooShort v n)
      | _ => []
  | .minItems n =>
      match v with
      | .array vs => faultIf (vs.length < n) (.tooShort v n)
      | _ => []
  | .maxItems n => faultIf (n < v.items.length) (.tooLong v n)
  | .pattern f =>
      match v with
      | .text s => faultIf (!f.accepts s) (.noMatch s f)
      | _ => []
  | .additional _ | .properties _ | .propertyNames _ | .items _ => []

mutual

/-- The faults of a value under a schema. -/
def Schema.faults : Schema → Json → List SchemaFault
  | .keywords ks, v => Keyword.faultsOf (Keyword.propertiesOf ks) ks v
  | .ref _ target, v => target.faults v

/-- The faults of a value under keywords; `known` are the properties of the schema. -/
def Keyword.faultsOf (known : List String) : List Keyword → Json → List SchemaFault
  | [], _ => []
  | k :: rest, v => k.faults known v ++ Keyword.faultsOf known rest v

/-- The faults of a value under a keyword. -/
def Keyword.faults (known : List String) : Keyword → Json → List SchemaFault
  | .additional s, v =>
      (v.otherFields known).flatMap fun f => (s.faults f.2).map (.under (.key f.1))
  | .properties ps, v => Keyword.propertyFaults ps v
  | .propertyNames s, v => v.keys.flatMap fun name => s.faults (.text name)
  | .items s, v =>
      v.items.zipIdx.flatMap fun item => (s.faults item.1).map (.under (.index item.2))
  | k, v => k.ownFaults known v

/-- The faults of the fields that are properties. -/
def Keyword.propertyFaults : List (String × Schema) → Json → List SchemaFault
  | [], _ => []
  | (name, s) :: rest, v =>
      (match v.get? name with
        | some w => (s.faults w).map (.under (.key name))
        | none => [])
        ++ Keyword.propertyFaults rest v

end

/-- The first fault of a value under a schema. -/
def Schema.fault? (s : Schema) (v : Json) : Option SchemaFault := (s.faults v).head?

/-- Refuses a value that does not fit a schema. -/
def Schema.check (s : Schema) (v : Json) : Except Problem Unit :=
  match s.fault? v with
  | none => .ok ()
  | some f => .error (.schema f.message)

theorem Schema.check_eq_ok_iff {s : Schema} {v : Json} : s.check v = .ok () ↔ s.faults v = [] := by
  unfold Schema.check Schema.fault?
  cases s.faults v <;> simp

end QuasiGrammar
