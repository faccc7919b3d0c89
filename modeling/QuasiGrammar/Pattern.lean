import QuasiGrammar.Json.Basic
import QuasiGrammar.Rule.Basic

/-
  QuasiGrammar.Pattern
  ────────────────────
  The pattern that a rule contributes to the grammar: it begins at the tag and
  the backtick after it, ends at the next backtick that no backslash escapes,
  and embeds the scope of the rule between them.
-/

namespace QuasiGrammar

open Text

/-- A pattern of the grammar. -/
structure Pattern where
  contentName : String
  beginRegex : String
  endRegex : String
  includeScope : String
  nestedInclude : String
  deriving DecidableEq, Repr

namespace Pattern

/-- The expression that begins a pattern: blanks, the tag as the first group, blanks, and the
backtick as the second. -/
def beginWith (source : String) : String := "\\s*+(" ++ source ++ ")\\s*(`)"

/-- The expression that ends a pattern: a backtick after a run of backslashes of even length. -/
def endRegexSource : String := "\\s*(?<=[^\\\\]\\\\\\\\|[^\\\\]|^\\\\\\\\|^)((`))"

/-- The grammar of the text inside a template literal. -/
def nestedGrammar : String := "source.js.jsx#literal-quasi-embedded"

/-- The scope of a tag. -/
def tagScope : String := "entity.name.tag.js"

/-- The scope of the backtick that opens a template literal. -/
def openingScope : String := "punctuation.definition.quasi.begin.js"

/-- The scope of the backtick that closes a template literal. -/
def closingScope : String := "punctuation.definition.quasi.end.js"

/-- The part of a scope before the number sign. -/
def baseScope (scope : String) : String :=
  String.ofList (scope.toList.takeWhile (· != '#'))

/-- A capture that names a scope. -/
def capture (scope : String) : Json := .object [("name", .text scope)]

/-- An inclusion of a scope. -/
def inclusion (scope : String) : Json := .object [("include", .text scope)]

/-- A pattern as it stands in a document. -/
def toJson (p : Pattern) : Json :=
  .object [
    ("contentName", .text p.contentName),
    ("begin", .text p.beginRegex),
    ("beginCaptures", .object [("1", capture tagScope), ("2", capture openingScope)]),
    ("end", .text p.endRegex),
    ("endCaptures", .object [("1", capture closingScope)]),
    ("patterns", .array [inclusion p.nestedInclude, inclusion p.includeScope])]

end Pattern

/-- The pattern of a rule. -/
def Rule.pattern (r : Rule) : Pattern :=
  ⟨Pattern.baseScope r.scope, Pattern.beginWith r.subject.source, Pattern.endRegexSource, r.scope,
    Pattern.nestedGrammar⟩

end QuasiGrammar
