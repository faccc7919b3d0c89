/-
  QuasiGrammar.Regex.Token
  ────────────────────────
  An expression is read in tokens: a character, or a backslash with the
  character after it.  A backslash at the very end starts a token that never
  ends; it is met when reading arrives there.
-/

namespace QuasiGrammar.Regex

/-- A character, or a character after a backslash. -/
inductive Token where
  | plain (c : Char)
  | escaped (c : Char)
  deriving DecidableEq, Repr

/-- The number of characters of a token. -/
def Token.width : Token → Nat
  | .plain _ => 1
  | .escaped _ => 2

/-- The characters of a token. -/
def Token.chars : Token → List Char
  | .plain c => [c]
  | .escaped c => ['\\', c]

/-- The tokens of an expression, and whether a lone backslash is left after them. -/
def tokens : List Char → List Token × Bool
  | [] => ([], false)
  | ['\\'] => ([], true)
  | '\\' :: c :: rest => let (ts, open?) := tokens rest; (.escaped c :: ts, open?)
  | c :: rest => let (ts, open?) := tokens rest; (.plain c :: ts, open?)

/-- The characters of tokens. -/
def tokenChars (ts : List Token) : List Char := ts.flatMap Token.chars

theorem tokenChars_tokens (cs : List Char) :
    tokenChars (tokens cs).1 ++ (if (tokens cs).2 then ['\\'] else []) = cs := by
  fun_induction tokens cs with
  | case1 => rfl
  | case2 => rfl
  | case3 c rest ts o h ih => simp_all [tokenChars, Token.chars]
  | case4 c rest h1 h2 ts o h ih => simp_all [tokenChars, Token.chars]

theorem tokens_plain {c : Char} (hc : c ≠ '\\') (rest : List Char) :
    tokens (c :: rest) = (.plain c :: (tokens rest).1, (tokens rest).2) := by
  rw [tokens]
  · intro h _
    exact hc h
  · intro _ _ h _
    exact hc h

theorem tokens_append {cs : List Char} (h : (tokens cs).2 = false) (more : List Char) :
    tokens (cs ++ more) = ((tokens cs).1 ++ (tokens more).1, (tokens more).2) := by
  fun_induction tokens cs with
  | case1 => rfl
  | case2 => cases h
  | case3 c rest ts o htokens ih =>
    rw [htokens] at ih
    rw [List.cons_append, List.cons_append, tokens, ih h]
    rfl
  | case4 c rest hlone hpair ts o htokens ih =>
    have hc : c ≠ '\\' := by
      rintro rfl
      cases rest with
      | nil => exact hlone rfl rfl
      | cons d rest => exact hpair d rest rfl rfl
    rw [htokens] at ih
    rw [List.cons_append, tokens_plain hc, ih h]
    rfl

theorem length_tokens_le (cs : List Char) : (tokens cs).1.length ≤ cs.length := by
  fun_induction tokens cs with
  | case1 => exact Nat.le_refl _
  | case2 => exact Nat.zero_le _
  | case3 c rest ts o htokens ih =>
    rw [htokens] at ih
    exact Nat.succ_le_succ (Nat.le_succ_of_le ih)
  | case4 c rest h1 h2 ts o htokens ih =>
    rw [htokens] at ih
    exact Nat.succ_le_succ ih

end QuasiGrammar.Regex
