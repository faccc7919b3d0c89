import QuasiGrammar.Schema.Check

/-
  QuasiGrammar.Schema.Grammar
  ───────────────────────────
  What a grammar document has to look like, in the form that documents are
  published with.
-/

namespace QuasiGrammar.Schema

/-- A text that is not empty. -/
def nonEmptyText : Schema := .keywords [.type .string, .minLength 1]

/-- Captures: numbers of groups, each with an object that holds a name. -/
def captures : Schema := .keywords [
  .type .object,
  .propertyNames (.keywords [.pattern .digits]),
  .additional (.keywords [
    .type .object,
    .required ["name"],
    .properties [("name", nonEmptyText)]])]

/-- The inclusion of a scope. -/
def inclusion : Schema := .keywords [
  .type .object,
  .required ["include"],
  .closed,
  .properties [("include", nonEmptyText)]]

/-- A pattern. -/
def quasiPattern : Schema := .keywords [
  .type .object,
  .required ["contentName", "begin", "beginCaptures", "end", "endCaptures", "patterns"],
  .closed,
  .properties [
    ("contentName", nonEmptyText),
    ("begin", nonEmptyText),
    ("beginCaptures", .ref "captures" captures),
    ("end", nonEmptyText),
    ("endCaptures", .ref "captures" captures),
    ("patterns", .keywords [
      .type .array,
      .minItems 1,
      .items (.ref "include" inclusion)])]]

/-- The keywords of a document. -/
def documentKeywords : List Keyword := [
  .type .object,
  .required ["name", "scopeName", "fileTypes", "patterns"],
  .closed,
  .properties [
    ("name", nonEmptyText),
    ("comment", .keywords [.type .string]),
    ("scopeName", .keywords [.type .string, .pattern .dotted]),
    ("fileTypes", .keywords [.type .array, .maxItems 0]),
    ("patterns", .keywords [.type .array, .items (.ref "quasiPattern" quasiPattern)])]]

/-- A grammar document. -/
def grammar : Schema := .keywords documentKeywords

/-- The schemas that have a name. -/
def definitions : List (String × Schema) :=
  [("captures", captures), ("include", inclusion), ("quasiPattern", quasiPattern)]

/-- The schema of a grammar document with the dialect it is written in and its title. -/
def grammarJson : Json :=
  .object (
    [("$schema", .text "http://json-schema.org/draft-07/schema#"),
      ("title", .text "Tagged template extension grammar")]
    ++ Keyword.fields documentKeywords
    ++ [("definitions", .object (Keyword.propertyFields definitions))])

end QuasiGrammar.Schema
