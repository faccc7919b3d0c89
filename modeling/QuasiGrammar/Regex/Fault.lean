import QuasiGrammar.Text.Quoted

/-
  QuasiGrammar.Regex.Fault
  ────────────────────────
  Why an expression is refused, and where.  A place counts the characters
  before the fault; in an expression of several lines the message also names
  the line and the column.  Faults that concern the expression as a whole have
  no place.
-/

namespace QuasiGrammar.Regex

open Text

/-- Why an expression is refused. -/
inductive Cause where
  /-- A backslash ends the expression. -/
  | loneBackslash
  | badEscape (text : List Char)
  | incompleteEscape (text : List Char)
  | octalTooLarge (text : List Char)
  /-- A named character without its opening brace. -/
  | missingBrace
  | undefinedCharacter (name : List Char)
  /-- A name of the given sort is empty. -/
  | missingName (sort : String)
  | unterminatedName (terminator : Char)
  | unterminatedSet
  | badRange (text : List Char)
  | nothingToRepeat
  | multipleRepeat
  | minAboveMax
  | unexpectedEnd
  | unknownExtension (text : List Char)
  | badGroupName (name : List Char)
  | unknownGroup (name : List Char)
  | redefinedGroup (name : List Char) (index first : Nat)
  | openGroup
  | sameLookbehind
  | invalidReference (index : Nat)
  | badGroupNumber
  | unterminatedComment
  | unterminatedGroup
  | tooManyBranches
  | unbalanced
  | lateFlags
  | unknownFlag
  | missingFlag
  | missingFlagEnd
  | missingColon
  | localeFlag
  | clashingTypes
  | typeTurnedOff
  | globalTurnedOn
  | globalTurnedOff
  | turnedOnAndOff
  /-- The type flags of the whole expression exclude each other. -/
  | clashingGlobalTypes
  | variableLookbehind
  /-- An operator that template mode does not know. -/
  | templateOperator (operator : String)
  /-- A repeat count with too many digits to be read. -/
  | tooManyDigits (count : Nat)
  deriving DecidableEq, Repr

/-- The wording of a cause. -/
def Cause.wording : Cause → List Char
  | .loneBackslash => "bad escape (end of pattern)".toList
  | .badEscape text => "bad escape ".toList ++ text
  | .incompleteEscape text => "incomplete escape ".toList ++ text
  | .octalTooLarge text => "octal escape value ".toList ++ text
      ++ " outside of range 0-0o377".toList
  | .missingBrace => "missing \x7b".toList
  | .undefinedCharacter name => "undefined character name ".toList ++ quoted name
  | .missingName sort => "missing ".toList ++ sort.toList
  | .unterminatedName terminator => "missing ".toList ++ [terminator]
      ++ ", unterminated name".toList
  | .unterminatedSet => "unterminated character set".toList
  | .badRange text => "bad character range ".toList ++ text
  | .nothingToRepeat => "nothing to repeat".toList
  | .multipleRepeat => "multiple repeat".toList
  | .minAboveMax => "min repeat greater than max repeat".toList
  | .unexpectedEnd => "unexpected end of pattern".toList
  | .unknownExtension text => "unknown extension ?".toList ++ text
  | .badGroupName name => "bad character in group name ".toList ++ quoted name
  | .unknownGroup name => "unknown group name ".toList ++ quoted name
  | .redefinedGroup name index first =>
      "redefinition of group name ".toList ++ quoted name ++ " as group ".toList
        ++ Nat.toDigits 10 index ++ "; was group ".toList ++ Nat.toDigits 10 first
  | .openGroup => "cannot refer to an open group".toList
  | .sameLookbehind =>
      "cannot refer to group defined in the same lookbehind subpattern".toList
  | .invalidReference index => "invalid group reference ".toList ++ Nat.toDigits 10 index
  | .badGroupNumber => "bad group number".toList
  | .unterminatedComment => "missing ), unterminated comment".toList
  | .unterminatedGroup => "missing ), unterminated subpattern".toList
  | .tooManyBranches => "conditional backref with more than two branches".toList
  | .unbalanced => "unbalanced parenthesis".toList
  | .lateFlags => "global flags not at the start of the expression".toList
  | .unknownFlag => "unknown flag".toList
  | .missingFlag => "missing flag".toList
  | .missingFlagEnd => "missing -, : or )".toList
  | .missingColon => "missing :".toList
  | .localeFlag => "bad inline flags: cannot use 'L' flag with a str pattern".toList
  | .clashingTypes => "bad inline flags: flags 'a', 'u' and 'L' are incompatible".toList
  | .typeTurnedOff =>
      "bad inline flags: cannot turn off flags 'a', 'u' and 'L'".toList
  | .globalTurnedOn => "bad inline flags: cannot turn on global flag".toList
  | .globalTurnedOff => "bad inline flags: cannot turn off global flag".toList
  | .turnedOnAndOff => "bad inline flags: flag turned on and off".toList
  | .clashingGlobalTypes => "ASCII and UNICODE flags are incompatible".toList
  | .variableLookbehind => "look-behind requires fixed-width pattern".toList
  | .templateOperator operator =>
      "internal: unsupported template operator ".toList ++ operator.toList
  | .tooManyDigits count =>
      "Exceeds the limit (4300 digits) for integer string conversion: value has ".toList
        ++ Nat.toDigits 10 count
        ++ " digits; use sys.set_int_max_str_digits() to increase the limit".toList

/-- A fault: its cause, and its place unless it concerns the whole expression. -/
structure Fault where
  cause : Cause
  place : Option Nat
  deriving DecidableEq, Repr

/-- The line and the column of a place, both counted from one. -/
def lineAndColumn (source : List Char) (place : Nat) : Nat × Nat :=
  let before := source.take place
  (before.count '\n' + 1, (before.reverse.takeWhile (· != '\n')).length + 1)

/-- The message of a fault in an expression. -/
def Fault.message (source : List Char) (f : Fault) : String :=
  String.ofList <|
    f.cause.wording ++
      match f.place with
      | none => []
      | some place =>
          " at position ".toList ++ Nat.toDigits 10 place ++
            if source.contains '\n' then
              let (line, column) := lineAndColumn source place
              " (line ".toList ++ Nat.toDigits 10 line ++ ", column ".toList
                ++ Nat.toDigits 10 column ++ [')']
            else []

end QuasiGrammar.Regex
