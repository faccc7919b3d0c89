import QuasiGrammar.Regex.Token

/-
  QuasiGrammar.Regex.Escape
  ─────────────────────────
  A text as an expression that stands for it: characters of a kind have a
  backslash before them.  Which characters these are is for each writer of
  expressions to choose; the engine has a choice of its own.
-/

namespace QuasiGrammar.Regex

/-- A text with a backslash before each character of a kind. -/
def escapeWith (special : Char → Bool) (cs : List Char) : List Char :=
  cs.flatMap fun c => if special c then ['\\', c] else [c]

/-- The characters that the engine escapes: all that mean something somewhere in an expression, the
white space and signs of flag `x` among them. -/
def specialChars : List Char :=
  ['(', ')', '[', ']', '\x7b', '\x7d', '?', '*', '+', '-', '|', '^', '$', '\\', '.', '&', '~', '#',
    ' ', '\t', '\n', '\r', '\x0b', '\x0c']

/-- A text as the engine writes it for an expression. -/
def escapeText (cs : List Char) : List Char := escapeWith specialChars.contains cs

/-- The token of a character in a text that is escaped. -/
def escapedToken (special : Char → Bool) (c : Char) : Token :=
  if special c then .escaped c else .plain c

theorem escapeWith_cons (special : Char → Bool) (c : Char) (cs : List Char) :
    escapeWith special (c :: cs) =
      (if special c then ['\\', c] else [c]) ++ escapeWith special cs := rfl

/-- The tokens of a text that is escaped are its characters. -/
theorem tokens_escapeWith {special : Char → Bool} (h : special '\\' = true) (cs : List Char) :
    tokens (escapeWith special cs) = (cs.map (escapedToken special), false) := by
  induction cs with
  | nil => rfl
  | cons c cs ih =>
    rw [escapeWith_cons, List.map_cons, escapedToken]
    by_cases hc : special c = true
    · rw [if_pos hc, if_pos hc]
      show tokens ('\\' :: c :: escapeWith special cs) = _
      rw [tokens, ih]
    · have hplain : c ≠ '\\' := by
        rintro rfl
        exact hc h
      rw [if_neg hc, if_neg hc]
      show tokens (c :: escapeWith special cs) = _
      rw [tokens_plain hplain, ih]

end QuasiGrammar.Regex
