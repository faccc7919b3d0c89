import QuasiGrammar.Number.Numeral
import QuasiGrammar.Text.Quoted
import QuasiGrammar.Value.Basic

/-
  QuasiGrammar.Value.Printer
  ──────────────────────────
  `shown` is the text of a value inside a message: texts are quoted,
  containers list what they hold.  `plainText` is the text of a value that stands
  for a text itself: a text is taken as it is and a date is written for
  people.  An integer of more digits than are ever written has neither.
-/

namespace QuasiGrammar.Value

open Number Text

/-- The text of a scalar inside a message. -/
def scalarShown : Value → List Char
  | .null => "None".toList
  | .bool b => if b then "True".toList else "False".toList
  | .int i => (if i < 0 then ['-'] else []) ++ Nat.toDigits 10 i.natAbs
  | .float x => NumberFormat.settings.text x
  | .noNumber _ => NumberFormat.settings.text .nan
  | .text s => quoted s.toList
  | .octets bs => quotedOctets bs
  | .date d => d.shown.toList
  | .moment m => m.shown.toList
  | .again isList => if isList then "[...]".toList else "\x7b...\x7d".toList
  | .list _ | .map _ | .set _ | .pair _ _ => []

mutual

/-- The text of a value inside a message. -/
def shown : Value → List Char
  | .list items => '[' :: shownItems items ++ [']']
  | .map entries => '\x7b' :: shownEntries entries ++ ['\x7d']
  | .set [] => "set()".toList
  | .set members => '\x7b' :: shownItems members ++ ['\x7d']
  | .pair v w => '(' :: shown v ++ [',', ' '] ++ shown w ++ [')']
  | v => scalarShown v

/-- Values with commas between them. -/
def shownItems : List Value → List Char
  | [] => []
  | [v] => shown v
  | v :: rest => shown v ++ [',', ' '] ++ shownItems rest

/-- Entries of a map with commas between them. -/
def shownEntries : List (Value × Value) → List Char
  | [] => []
  | [(k, v)] => shown k ++ [':', ' '] ++ shown v
  | (k, v) :: rest => shown k ++ [':', ' '] ++ shown v ++ [',', ' '] ++ shownEntries rest

end

mutual

/-- Whether a value holds an integer of more digits than are written. -/
def holdsLongInt : Value → Bool
  | .int i => Nat.pow 10 maxDigits ≤ i.natAbs
  | .list items | .set items => anyLongInt items
  | .map entries => anyLongEntry entries
  | .pair v w => holdsLongInt v || holdsLongInt w
  | _ => false

/-- Whether one of some values holds an integer of more digits than are written. -/
def anyLongInt : List Value → Bool
  | [] => false
  | v :: rest => holdsLongInt v || anyLongInt rest

/-- Whether one of some entries holds an integer of more digits than are written. -/
def anyLongEntry : List (Value × Value) → Bool
  | [] => false
  | (k, v) :: rest => holdsLongInt k || holdsLongInt v || anyLongEntry rest

end

/-- The text of a value inside a message, if its integers can be written. -/
def shownText (v : Value) : Except Defect String :=
  if v.holdsLongInt then .error .tooLongToWrite else .ok (String.ofList v.shown)

/-- The text of a value that stands for a text, if its integers can be written. -/
def plainText : Value → Except Defect String
  | .text s => .ok s
  | .date d => .ok d.text
  | .moment m => .ok m.text
  | v => v.shownText

end QuasiGrammar.Value
