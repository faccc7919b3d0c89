import QuasiGrammar.Failure
import QuasiGrammar.Text.Split

/-
  QuasiGrammar.Rule.Basic
  ───────────────────────
  A rule of the settings is a text `match:scope`.  The last colon cuts it.

      scope   a dotted identifier, and maybe `#` and one more
      match   between double quotes a regular expression, else a literal tag

  `Rule.parse` accepts exactly the texts of this form; what it refuses is a
  rule of another form (`invalidSpec`), or a literal that holds a quote which
  no backslash escapes (`invalidLiteral`).  Whether a regular expression is
  well formed is not asked here: that is for the engine of the host.
-/

namespace QuasiGrammar

open Text

/-! ## §1. Scopes. -/

/-- A letter, digit or low line of ASCII. -/
def isWordChar (c : Char) : Bool := c.isAlphanum || c == '_'

/-- A letter of ASCII, then word characters. -/
def isWord : List Char → Bool
  | [] => false
  | c :: rest => c.isAlpha && rest.all isWordChar

/-- Words with single dots between them. -/
def isDotted (cs : List Char) : Bool := (splitAll '.' cs).all isWord

/-- A dotted identifier, and maybe a number sign and one more. -/
def isScope (cs : List Char) : Bool :=
  match splitAll '#' cs with
  | [scope] => isDotted scope
  | [scope, part] => isDotted scope && isDotted part
  | _ => false

/-! ## §2. Matches. -/

/-- Whether a match is written as a regular expression: between two double quotes. -/
def isQuoted (cs : List Char) : Bool :=
  2 ≤ cs.length && cs.head? == some '"' && cs.getLast? == some '"'

/-- What stands between the first and the last character. -/
def unquoted (cs : List Char) : List Char := (cs.drop 1).dropLast

/-- Whether a double quote follows an even number of backslashes.  The first argument tells
whether the run of backslashes before the text is of even length. -/
def hasBareQuote (even : Bool) : List Char → Bool
  | [] => false
  | '"' :: rest => even || hasBareQuote true rest
  | '\\' :: rest => hasBareQuote (!even) rest
  | _ :: rest => hasBareQuote true rest

/-- The characters that stand for more than themselves in a regular expression, apart from the
backslash. -/
def metaChars : List Char :=
  ['|', '\x7b', '\x7d', '(', ')', '[', ']', '^', '$', '+', '*', '?', '.']

/-- A literal as the regular expression that matches it alone. -/
def escapeLiteral (cs : List Char) : List Char :=
  cs.flatMap fun c => if c = '\\' || metaChars.contains c then ['\\', c] else [c]

/-! ## §3. Rules. -/

/-- What a rule matches. -/
inductive Match where
  /-- A regular expression, as it was written between the quotes. -/
  | regex (source : String)
  /-- A tag that stands for itself. -/
  | literal (tag : String)
  deriving DecidableEq, Repr

/-- A rule: what it matches and the scope it embeds. -/
structure Rule where
  subject : Match
  scope : String
  deriving DecidableEq, Repr

/-- The regular expression of a match. -/
def Match.source : Match → String
  | .regex source => source
  | .literal tag => String.ofList (escapeLiteral tag.toList)

namespace Rule

/-- The match and the scope of a rule's text, before either is looked at. -/
def split (text : String) : Except Problem (List Char × List Char) :=
  match splitLast? ':' text.toList with
  | none => .error (.invalidSpec text)
  | some parts => .ok parts

/-- The match of a rule. -/
def parseMatch (text : String) (subject : List Char) : Except Problem Match :=
  if isQuoted subject then
    if unquoted subject = [] then .error (.invalidSpec text)
    else .ok (.regex (String.ofList (unquoted subject)))
  else if hasBareQuote true subject then
    .error (.invalidLiteral text (String.ofList subject))
  else .ok (.literal (String.ofList subject))

/-- Reads a rule. -/
def parse (text : String) : Except Problem Rule := do
  let (subject, scope) ← split text
  if subject = [] || !isScope scope then .error (.invalidSpec text)
  else
    let m ← parseMatch text subject
    pure ⟨m, String.ofList scope⟩

end Rule

end QuasiGrammar
