import QuasiGrammar.Path
import QuasiGrammar.Text.Loose
import QuasiGrammar.Text.Quoted
import QuasiGrammar.Text.Utf8

/-
  QuasiGrammar.Failure
  ────────────────────
  All causes of failure, with one function for the text of each.  A `Problem`
  is addressed to the user: a rule that cannot be compiled, a document that
  does not fit the schema, settings that cannot be used, a grammar that cannot
  be published.  A `SystemFault` is a refused file operation, a `Defect` a
  value that no step of the work can handle, and a `HostFault` whatever the
  host raised.
-/

namespace QuasiGrammar

open Text

/-- Why the file system refuses an operation. -/
inductive Refusal where
  | noEntry
  | exists
  | notDirectory
  | isDirectory
  | nameTooLong
  deriving DecidableEq, Repr

/-- The number of a refusal. -/
def Refusal.number : Refusal → Nat
  | .noEntry => 2
  | .exists => 17
  | .notDirectory => 20
  | .isDirectory => 21
  | .nameTooLong => 36

/-- The wording of a refusal. -/
def Refusal.wording : Refusal → String
  | .noEntry => "No such file or directory"
  | .exists => "File exists"
  | .notDirectory => "Not a directory"
  | .isDirectory => "Is a directory"
  | .nameTooLong => "File name too long"

/-- A refused file operation. -/
structure SystemFault where
  refusal : Refusal
  path : Path
  deriving DecidableEq, Repr

/-- The text of a refused file operation. -/
def SystemFault.message (f : SystemFault) : String :=
  "[Errno " ++ toString f.refusal.number ++ "] " ++ f.refusal.wording ++ ": " ++ quote f.path.text

/-- At which step a grammar failed to be published. -/
inductive PublishStep where
  /-- The grammar directory could not be read or written. -/
  | files
  /-- The registry refused the grammar. -/
  | registration
  /-- Any other step. -/
  | other
  deriving DecidableEq, Repr

/-- A failure that is addressed to the user. -/
inductive Problem where
  /-- A rule that is not of the form "match : scope". -/
  | invalidSpec (rule : String)
  /-- A rule whose regular expression the engine rejects. -/
  | malformedRegex (rule regex detail : String)
  /-- A rule whose literal holds a bare quote. -/
  | invalidLiteral (rule literal : String)
  /-- A document that does not fit the schema. -/
  | schema (detail : String)
  /-- A settings file that cannot be used. -/
  | ruleSource (path : Path) (detail : String)
  /-- A grammar that cannot be published. -/
  | publish (step : PublishStep) (path : Path) (message : String)
  /-- A problem of the host, in its own words. -/
  | general (message : String)
  deriving DecidableEq, Repr

/-- The text of a problem. -/
def Problem.message : Problem → String
  | .invalidSpec rule => "Error in the Tagged Template Grammar String " ++ rule
  | .malformedRegex _ regex detail =>
      "You entered a badly formed RegExp in the Tagged Template Grammar settings.\n" ++ regex
        ++ "\n" ++ detail
  | .invalidLiteral _ literal =>
      "Bad literal string in the Tagged Template Grammar settings.\n" ++ literal
  | .schema detail => "Invalid grammar document (" ++ detail ++ ")"
  | .ruleSource path detail => "Invalid grammar settings (" ++ detail ++ "): " ++ path.text
  | .publish _ path message => message ++ "\n" ++ path.text
  | .general message => message

/-- The parts of a date that can be out of range. -/
inductive CalendarPart where
  | year (n : Nat)
  | month
  | day
  | hour
  | minute
  | second
  | offset (text : String)
  deriving DecidableEq, Repr

/-- A value that no step of the work can handle. -/
inductive Defect where
  /-- A path with a NUL. -/
  | nulInPath
  /-- A service that is started twice. -/
  | alreadyStarted
  /-- An integer beyond the range of numbers with a point. -/
  | numberTooLarge
  /-- A repeat count that is not below `2 ^ 32 - 1`. -/
  | repeatTooLarge
  /-- A lookbehind of `2 ^ 31` characters or more. -/
  | lookbehindTooLong
  /-- A code point beyond the range of characters. -/
  | noCharacter
  /-- A code point that is not below `2 ^ 31`. -/
  | codePointTooLarge
  /-- Octets that are no UTF-8. -/
  | notUtf8 (fault : Utf8Fault)
  /-- A text that has no UTF-8 form. -/
  | noUtf8Form (fault : EncodingFault)
  /-- More calls inside one another than the stack has room for. -/
  | stackExhausted
  /-- A half of a surrogate pair in a settings file.  No failure of the program: what it makes of
  the file is left aside. -/
  | strayHalf
  /-- A text that is no integer in a base. -/
  | notAnInteger (base : Nat) (text : String)
  /-- A numeral with too many digits to be read. -/
  | tooManyDigits (count : Nat)
  /-- An integer with too many digits to be written. -/
  | tooLongToWrite
  /-- A text that is no decimal. -/
  | notADecimal (text : String)
  /-- A text that is neither of the two truth values. -/
  | notABoolean (text : String)
  /-- A number without a digit. -/
  | emptyNumber
  /-- A text that is no date. -/
  | notADate
  /-- A map where the text of a date is expected. -/
  | mapForDate
  /-- A date with a part out of range. -/
  | calendar (part : CalendarPart)
  deriving DecidableEq, Repr

/-- The wording of a reason why octets are no UTF-8. -/
def Text.Utf8Reason.wording : Utf8Reason → String
  | .invalidStart => "invalid start byte"
  | .invalidContinuation => "invalid continuation byte"
  | .unexpectedEnd => "unexpected end of data"

/-- The text of a fault in UTF-8: one octet is named, of several only the places. -/
def Text.Utf8Fault.message (f : Utf8Fault) : String :=
  "'utf-8' codec can't decode " ++
    (if f.count = 1 then
      "byte 0x" ++ String.ofList (hexDigits 2 f.octet.toNat) ++ " in position " ++ toString f.start
    else
      "bytes in position " ++ toString f.start ++ "-" ++ toString (f.start + f.count - 1))
    ++ ": " ++ f.reason.wording

/-- The text of a fault in encoding: one letter is named, of several only the places. -/
def Text.EncodingFault.message (f : EncodingFault) : String :=
  "'utf-8' codec can't encode " ++
    (if f.count = 1 then
      "character '\\u" ++ String.ofList (hexDigits 4 f.code) ++ "' in position " ++
        toString f.start
    else
      "characters in position " ++ toString f.start ++ "-" ++ toString (f.start + f.count - 1))
    ++ ": surrogates not allowed"

/-- The text of a part of a date that is out of range. -/
def CalendarPart.message : CalendarPart → String
  | .year n => "year " ++ toString n ++ " is out of range"
  | .month => "month must be in 1..12"
  | .day => "day is out of range for month"
  | .hour => "hour must be in 0..23"
  | .minute => "minute must be in 0..59"
  | .second => "second must be in 0..59"
  | .offset text =>
      "offset must be a timedelta strictly between -timedelta(hours=24) and " ++
        "timedelta(hours=24), not " ++ text ++ "."

/-- The number of characters of a quoted text, from its quotation mark on, that are shown where it
was to be an integer. -/
def maxQuoted : Nat := 200

/-- The text of a defect. -/
def Defect.message : Defect → String
  | .nulInPath => "embedded null byte"
  | .alreadyStarted => "Grammar service already started"
  | .numberTooLarge => "int too large to convert to float"
  | .repeatTooLarge => "the repetition number is too large"
  | .lookbehindTooLong => "invalid SRE code"
  | .noCharacter => "chr() arg not in range(0x110000)"
  | .codePointTooLarge => "Python int too large to convert to C int"
  | .notUtf8 fault => fault.message
  | .noUtf8Form fault => fault.message
  | .stackExhausted => "maximum recursion depth exceeded"
  | .strayHalf => "a half of a surrogate pair is left aside"
  | .notAnInteger base text =>
      "invalid literal for int() with base " ++ toString base ++ ": "
        ++ String.ofList ((quoted text.toList).take maxQuoted)
  | .tooManyDigits count =>
      "Exceeds the limit (4300 digits) for integer string conversion: value has " ++ toString count
        ++ " digits; use sys.set_int_max_str_digits() to increase the limit"
  | .tooLongToWrite =>
      "Exceeds the limit (4300 digits) for integer string conversion; " ++
        "use sys.set_int_max_str_digits() to increase the limit"
  | .notADecimal text => "could not convert string to float: " ++ quote text
  | .notABoolean text => quote text
  | .emptyNumber => "string index out of range"
  | .notADate => "'NoneType' object has no attribute 'groupdict'"
  | .mapForDate => "expected string or bytes-like object, got 'list'"
  | .calendar part => part.message

/-- Something that the host raised: whether it is a fault of the system, the host's name for its
kind, and its text. -/
structure HostFault where
  isSystem : Bool
  kind : String
  message : String
  deriving DecidableEq, Repr

/-- A failure of a step. -/
inductive Failure where
  /-- A problem, and whether the user has been told. -/
  | problem (p : Problem) (reported : Bool)
  | system (f : SystemFault)
  | defect (d : Defect)
  | host (f : HostFault)
  deriving DecidableEq, Repr

namespace Failure

/-- The text of a failure. -/
def message : Failure → String
  | .problem p _ => p.message
  | .system f => f.message
  | .defect d => d.message
  | .host f => f.message

/-- Whether a failure comes from the system. -/
def isSystem : Failure → Bool
  | .system _ => true
  | .host f => f.isSystem
  | _ => false

/-- Whether a failure is addressed to the user. -/
def isProblem : Failure → Bool
  | .problem .. => true
  | _ => false

/-- Whether the user has been told of a failure. -/
def isReported : Failure → Bool
  | .problem _ reported => reported
  | _ => false

/-- The failure after the user has been told of it. -/
def markReported : Failure → Failure
  | .problem p _ => .problem p true
  | f => f

/-- A problem that the user has not been told of. -/
def fresh (p : Problem) : Failure := .problem p false

@[simp]
theorem message_markReported (f : Failure) : f.markReported.message = f.message := by
  cases f <;> rfl

end Failure

end QuasiGrammar
