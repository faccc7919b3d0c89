import QuasiGrammar.Json.Basic
import QuasiGrammar.Rule.Basic

/-
  QuasiGrammar.Schema.Basic
  ─────────────────────────
  A schema is a list of keywords, and each keyword constrains the values of
  one type and lets all other values pass.  A schema that is used in several
  places has a name, and a reference to it carries the schema along, so that a
  schema is a tree.
-/

namespace QuasiGrammar

open Text

/-- The types that a schema can ask for. -/
inductive JsonType where
  | object
  | array
  | string
  deriving DecidableEq, Repr

/-- The name of a type. -/
def JsonType.name : JsonType → String
  | .object => "object"
  | .array => "array"
  | .string => "string"

/-- The forms that a schema can ask of a text. -/
inductive TextForm where
  /-- Words with single dots between them. -/
  | dotted
  /-- Digits, one at least. -/
  | digits
  deriving DecidableEq, Repr

namespace TextForm

/-- The regular expression of a form, which has to be found in the text. -/
def source : TextForm → String
  | .dotted => "^[A-Za-z][A-Za-z0-9_]*(\\.[A-Za-z][A-Za-z0-9_]*)*$"
  | .digits => "^[0-9]+$"

/-- Whether the characters are of a form. -/
def matchesAll : TextForm → List Char → Bool
  | .dotted, cs => isDotted cs
  | .digits, cs => !cs.isEmpty && cs.all Char.isDigit

/-- The characters without one line feed at the end. -/
def dropFinalNewline (cs : List Char) : List Char :=
  if cs.getLast? = some '\n' then cs.dropLast else cs

/-- Whether the regular expression of a form is found in a text: the end of a text is also found
before one line feed that ends it. -/
def accepts (f : TextForm) (s : String) : Bool :=
  f.matchesAll s.toList || f.matchesAll (dropFinalNewline s.toList)

end TextForm

mutual

/-- A schema. -/
inductive Schema where
  | keywords (ks : List Keyword)
  /-- A reference to a schema by its name. -/
  | ref (name : String) (target : Schema)

/-- A keyword of a schema. -/
inductive Keyword where
  | type (t : JsonType)
  | required (names : List String)
  /-- Only the properties of the schema are allowed. -/
  | closed
  /-- What the fields that are no properties of the schema have to be. -/
  | additional (s : Schema)
  | properties (ps : List (String × Schema))
  | propertyNames (s : Schema)
  | items (s : Schema)
  | minLength (n : Nat)
  | minItems (n : Nat)
  | maxItems (n : Nat)
  | pattern (f : TextForm)

end

/-- The names of the properties among keywords. -/
def Keyword.propertiesOf : List Keyword → List String
  | [] => []
  | .properties ps :: rest => ps.map Prod.fst ++ propertiesOf rest
  | _ :: rest => propertiesOf rest

mutual

/-- A schema as it is written. -/
def Schema.toJson : Schema → Json
  | .keywords ks => .object (Keyword.fields ks)
  | .ref name _ => .object [("$ref", .text ("#/definitions/" ++ name))]

/-- A keyword as it is written: its name and its value. -/
def Keyword.field : Keyword → String × Json
  | .type t => ("type", .text t.name)
  | .required names => ("required", .array (names.map .text))
  | .closed => ("additionalProperties", .bool false)
  | .additional s => ("additionalProperties", s.toJson)
  | .properties ps => ("properties", .object (Keyword.propertyFields ps))
  | .propertyNames s => ("propertyNames", s.toJson)
  | .items s => ("items", s.toJson)
  | .minLength n => ("minLength", .int n)
  | .minItems n => ("minItems", .int n)
  | .maxItems n => ("maxItems", .int n)
  | .pattern f => ("pattern", .text f.source)

/-- The fields of keywords. -/
def Keyword.fields : List Keyword → List (String × Json)
  | [] => []
  | k :: rest => k.field :: Keyword.fields rest

/-- The fields of properties. -/
def Keyword.propertyFields : List (String × Schema) → List (String × Json)
  | [] => []
  | (name, s) :: rest => (name, s.toJson) :: Keyword.propertyFields rest

end

end QuasiGrammar
