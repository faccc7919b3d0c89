import QuasiGrammar.Json.Basic
import QuasiGrammar.Value.Calendar

/-
  QuasiGrammar.Value.Basic
  ────────────────────────
  What a settings file can hold: the scalars, octets and dates, and the
  containers.  A map keeps its entries in the order in which their keys first
  came up.  The keys of a map and the members of a set are scalars: they are
  looked up by value, where a truth value counts as one or zero, a number with
  a point equals the integer of the same size, and moments are compared in
  universal time.  The word for "not a number" is one key; a number that is
  none because it could not be computed is a key of its own, wherever it
  stands.
-/

namespace QuasiGrammar

open Number

/-- A value of a settings file. -/
inductive Value where
  | null
  | bool (b : Bool)
  | int (i : Int)
  | float (x : Binary64)
  /-- The number that the scalar of a node, by its number, fails to be. -/
  | noNumber (node : Nat)
  | text (s : String)
  | octets (bs : List UInt8)
  | date (d : Date)
  | moment (m : Moment)
  | list (items : List Value)
  | map (entries : List (Value × Value))
  | set (members : List Value)
  | pair (first second : Value)
  /-- A list, or else a map, inside itself. -/
  | again (isList : Bool)
  deriving Repr, Inhabited

namespace Value

/-- The value as a number, if it counts as one. -/
def asInt? : Value → Option Int
  | .bool b => some (if b then 1 else 0)
  | .int i => some i
  | _ => none

/-- Whether two numbers with a point are the same key: zeros of both signs are. -/
def sameFloat (x y : Binary64) : Bool := x == y || (x.isZero && y.isZero)

/-- The value of a scalar that is a number, at a node; the number may have come out as none. -/
def ofComputed (node : Nat) : Binary64 → Value
  | .nan => .noNumber node
  | x => .float x

/-- Whether two values are the same key. -/
def sameKey (v w : Value) : Bool :=
  match v.asInt?, w.asInt? with
  | some i, some j => i == j
  | some i, none =>
      match w with
      | .float y => y.eqInt i
      | _ => false
  | none, some j =>
      match v with
      | .float x => x.eqInt j
      | _ => false
  | none, none =>
      match v, w with
      | .null, .null => true
      | .float x, .float y => sameFloat x y
      | .noNumber a, .noNumber b => a == b
      | .text s, .text t => s == t
      | .octets bs, .octets cs => bs == cs
      | .date d, .date e => d == e
      | .moment m, .moment n => m.same n
      | _, _ => false

/-- Sets an entry of a map: a key that is already there keeps its place and its form. -/
def setEntry (key value : Value) : List (Value × Value) → List (Value × Value)
  | [] => [(key, value)]
  | (k, v) :: rest =>
      if k.sameKey key then (k, value) :: rest else (k, v) :: setEntry key value rest

/-- Adds a member to a set, unless it is already there. -/
def addMember (member : Value) (members : List Value) : List Value :=
  if members.any (·.sameKey member) then members else members ++ [member]

/-- The value of a text key. -/
def lookup (key : String) : List (Value × Value) → Option Value
  | [] => none
  | (.text k, v) :: rest => if k = key then some v else lookup key rest
  | _ :: rest => lookup key rest

/-- Whether a value says nothing: null, false, a zero, or an empty text or container. -/
def isBlankValue : Value → Bool
  | .null => true
  | .bool b => !b
  | .int i => i == 0
  | .float x => x.isZero
  | .text s => s.isEmpty
  | .octets bs => bs.isEmpty
  | .list items => items.isEmpty
  | .map entries => entries.isEmpty
  | .set members => members.isEmpty
  | .noNumber _ | .date _ | .moment _ | .pair _ _ | .again _ => false

mutual

/-- A JSON value as a value of settings. -/
def ofJson : Json → Value
  | .null => .null
  | .bool b => .bool b
  | .int i => .int i
  | .float x => .float x
  | .text s => .text s
  | .array items => .list (ofItems items)
  | .object fields => .map (ofFields fields)

/-- The items of an array as values of settings. -/
def ofItems : List Json → List Value
  | [] => []
  | v :: rest => ofJson v :: ofItems rest

/-- The fields of an object as entries of a map. -/
def ofFields : List (String × Json) → List (Value × Value)
  | [] => []
  | (k, v) :: rest => (.text k, ofJson v) :: ofFields rest

end

end Value

end QuasiGrammar
