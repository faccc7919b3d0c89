import QuasiGrammar.Json.Printer
import QuasiGrammar.Rule.Compile
import QuasiGrammar.Schema.Grammar

/-
  QuasiGrammar.Document
  ─────────────────────
  The document that is published: a header and one pattern for each rule, in
  the order of the rules.  A document is built from rules that compile, and
  checked against the schema before it is written.  Its text depends on the
  document alone, so that the digest of the text can name it.
-/

namespace QuasiGrammar

/-- The scope name of a document that is not given one. -/
def Document.defaultScope : String := "languagebabel.ttlextension"

/-- A grammar document. -/
structure Document where
  patterns : List Pattern
  name : String := "language-babel-extension"
  comment : String :=
    "Auto generated Tag Extensions for language-babel. Please do not edit this file directly"
  scopeName : String := Document.defaultScope
  fileTypes : List String := []
  deriving DecidableEq, Repr

namespace Document

/-- A document as JSON. -/
def toJson (d : Document) : Json :=
  .object [
    ("name", .text d.name),
    ("comment", .text d.comment),
    ("scopeName", .text d.scopeName),
    ("fileTypes", .array (d.fileTypes.map .text)),
    ("patterns", .array (d.patterns.map Pattern.toJson))]

/-- The text of a document, with a line feed at the end. -/
def text (d : Document) : String := d.toJson.pretty ++ "\n"

/-- Refuses a document that does not fit the schema. -/
def check (d : Document) : Except Problem Unit := Schema.grammar.check d.toJson

/-- The document of rules that all compile. -/
def ofRules (engine : Option Engine) (scopeName : String) (rules : List String) :
    Except Failure Document :=
  match Rule.compileAll engine rules with
  | .error f => .error f
  | .ok patterns => .ok { patterns := patterns, scopeName := scopeName }

/-- The text of the document of rules: the rules compile and the document fits the schema. -/
def build (engine : Option Engine) (scopeName : String) (rules : List String) :
    Except Failure String :=
  match ofRules engine scopeName rules with
  | .error f => .error f
  | .ok d =>
      match d.check with
      | .error p => .error (.fresh p)
      | .ok () => .ok d.text

end Document

end QuasiGrammar
