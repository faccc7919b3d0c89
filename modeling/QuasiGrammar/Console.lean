import QuasiGrammar.Publish.Program
import QuasiGrammar.Text.CellWidth

/-
  QuasiGrammar.Console
  ────────────────────
  A console shows a notice as its source, the word "warning" if it is one, and
  its text.  Sources and texts are plain: a tag in brackets is shown and not
  obeyed.  Four things are not shown as they are: control characters, a
  backslash before a bracket that begins no tag, a single backslash at the
  end, which comes out twice, and tabs, which become blanks up to the next
  multiple of eight cells.
-/

namespace QuasiGrammar.Console

/-- Whether a character rings, moves the carriage or the paper, and so is not shown. -/
def isControl (c : Char) : Bool := [7, 8, 11, 12, 13].contains c.toNat

/-- Whether a tag begins after an opening bracket: with a small letter or a sign, and with a closing
bracket before the next opening one. -/
def beginsTag (cs : List Char) : Bool :=
  cs.head?.any (fun c => ('a' ≤ c && c ≤ 'z') || c == '#' || c == '/' || c == '@') &&
    ((cs.drop 1).find? fun c => c == '[' || c == ']') == some ']'

/-- A text without the backslashes that stand directly before a bracket that begins no tag. -/
def dropEscapes : List Char → List Char
  | [] => []
  | '\\' :: '[' :: rest =>
      if beginsTag rest then '\\' :: '[' :: dropEscapes rest else '[' :: dropEscapes rest
  | c :: rest => c :: dropEscapes rest

/-- A text without opening brackets is kept. -/
theorem dropEscapes_of_not_mem {cs : List Char} (h : '[' ∉ cs) : dropEscapes cs = cs := by
  fun_induction dropEscapes cs with
  | case1 => rfl
  | case2 rest _ ih => simp at h
  | case3 rest _ ih => simp at h
  | case4 c rest _ ih => simp_all

/-- The number of backslashes at the end of a text. -/
def trailing (cs : List Char) : Nat := (cs.reverse.takeWhile (· == '\\')).length

/-- A text as it is shown, up to the backslashes at its end. -/
def body (cs : List Char) : List Char :=
  dropEscapes (cs.take (cs.length - trailing cs)) |>.filter (!isControl ·)

/-- Backslashes. -/
def backslashes (count : Nat) : List Char := List.replicate count '\\'

/-- A text as it is shown. -/
def plain (cs : List Char) : List Char :=
  body cs ++ backslashes (if trailing cs = 1 then 2 else trailing cs)

/-- The tag that ends the emphasis of a source. -/
def closingTag : List Char := "[/bold cyan]".toList

/-- A source as it is shown when the end of its emphasis follows at once: pairs of backslashes come
out as one, and one that is left over makes the tag visible. -/
def emphasised (cs : List Char) : List Char :=
  let count := trailing cs
  if count ≤ 1 then body cs ++ backslashes count
  else
    body cs ++ backslashes (count / 2) ++ (if count % 2 = 1 then closingTag else [])

/-- The distance between two stops of the tabulator, in cells. -/
def tabWidth : Nat := 8

/-- A text with blanks for its tabs, at a distance from the beginning of the line. -/
def expandTabs (column : Nat) : List Char → List Char
  | [] => []
  | c :: rest =>
      if c = '\t' then
        let count := tabWidth - column % tabWidth
        List.replicate count ' ' ++ expandTabs (column + count) rest
      else if c = '\n' then c :: expandTabs 0 rest
      else c :: expandTabs (column + Text.cellWidth c) rest

/-- A text without tabs is kept. -/
theorem expandTabs_of_notMem {column : Nat} {cs : List Char} (h : '\t' ∉ cs) :
    expandTabs column cs = cs := by
  induction cs generalizing column with
  | nil => rfl
  | cons c rest ih =>
    simp only [List.mem_cons, not_or] at h
    by_cases hn : c = '\n' <;> simp [expandTabs, Ne.symm h.1, hn, ih h.2]

/-- The text that a console shows for a notice. -/
def render (n : Notice) : String :=
  let source := n.source.toList
  let head := match n.level with
    | .info => emphasised source
    | .warning => plain source ++ " warning".toList
  String.ofList (expandTabs 0 (head ++ ' ' :: plain n.text.toList) ++ ['\n'])

end QuasiGrammar.Console
