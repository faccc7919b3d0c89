import QuasiGrammar.Json.Basic
import QuasiGrammar.Number.Shortest
import QuasiGrammar.Text.Quoted

/-
  QuasiGrammar.Json.Printer
  ─────────────────────────
  Two layouts of one value: `compact` writes it on a line, with a blank after
  each comma and colon, and `pretty` gives each item a line of its own, two
  blanks deeper than its container; an empty container is a pair of brackets
  in both.  A text keeps every character but the quote, the backslash and the
  control characters of ASCII, which are escaped.
-/

namespace QuasiGrammar.Json

open Number Text

/-- One character of a text, escaped if it has to be. -/
def escapedChar (c : Char) : List Char :=
  if c == '"' then ['\\', '"']
  else if c == '\\' then ['\\', '\\']
  else if c == '\n' then ['\\', 'n']
  else if c == '\r' then ['\\', 'r']
  else if c == '\t' then ['\\', 't']
  else if c.toNat == 0x08 then ['\\', 'b']
  else if c.toNat == 0x0c then ['\\', 'f']
  else if c.toNat < 0x20 then ['\\', 'u'] ++ hexDigits 4 c.toNat
  else [c]

/-- A text in quotes. -/
def textLiteral (s : String) : List Char :=
  '"' :: s.toList.flatMap escapedChar ++ ['"']

/-- An integer in decimal. -/
def intLiteral (i : Int) : List Char :=
  (if i < 0 then ['-'] else []) ++ Nat.toDigits 10 i.natAbs

/-- A number with a point or an exponent; the infinities and "not a number" by name. -/
def floatLiteral : Binary64 → List Char
  | .nan => "NaN".toList
  | .infinite s => (if s then ['-'] else []) ++ "Infinity".toList
  | x => NumberFormat.settings.text x

/-- A literal or a text; containers have their own layouts. -/
def scalarLiteral : Json → List Char
  | .null => "null".toList
  | .bool b => if b then "true".toList else "false".toList
  | .int i => intLiteral i
  | .float x => floatLiteral x
  | .text s => textLiteral s
  | .array _ | .object _ => []

mutual

/-- A value on one line. -/
def compact : Json → List Char
  | .array items => '[' :: compactItems items ++ [']']
  | .object fields => '\x7b' :: compactFields fields ++ ['\x7d']
  | v => scalarLiteral v

/-- The items of an array on one line. -/
def compactItems : List Json → List Char
  | [] => []
  | [v] => compact v
  | v :: rest => compact v ++ [',', ' '] ++ compactItems rest

/-- The fields of an object on one line. -/
def compactFields : List (String × Json) → List Char
  | [] => []
  | [(k, v)] => textLiteral k ++ [':', ' '] ++ compact v
  | (k, v) :: rest => textLiteral k ++ [':', ' '] ++ compact v ++ [',', ' '] ++ compactFields rest

end

/-- A line break and the indentation of a depth. -/
def newline (depth : Nat) : List Char := '\n' :: List.replicate (2 * depth) ' '

mutual

/-- A value at a depth, its items on lines of their own. -/
def prettyAt (depth : Nat) : Json → List Char
  | .array [] => ['[', ']']
  | .object [] => ['\x7b', '\x7d']
  | .array items => '[' :: prettyItems (depth + 1) items ++ newline depth ++ [']']
  | .object fields => '\x7b' :: prettyFields (depth + 1) fields ++ newline depth ++ ['\x7d']
  | v => scalarLiteral v

/-- The items of an array, each after a line break. -/
def prettyItems (depth : Nat) : List Json → List Char
  | [] => []
  | [v] => newline depth ++ prettyAt depth v
  | v :: rest => newline depth ++ prettyAt depth v ++ [','] ++ prettyItems depth rest

/-- The fields of an object, each after a line break. -/
def prettyFields (depth : Nat) : List (String × Json) → List Char
  | [] => []
  | [(k, v)] => newline depth ++ textLiteral k ++ [':', ' '] ++ prettyAt depth v
  | (k, v) :: rest =>
      newline depth ++ textLiteral k ++ [':', ' '] ++ prettyAt depth v ++ [',']
        ++ prettyFields depth rest

end

/-- A value on one line. -/
def line (v : Json) : String := String.ofList (compact v)

/-- A value over several lines, two blanks deeper for each container. -/
def pretty (v : Json) : String := String.ofList (prettyAt 0 v)

end QuasiGrammar.Json
