import QuasiGrammar.Proofs.Rule.Literal

/-
  QuasiGrammar.Proofs.Rule.Captures
  ─────────────────────────────────
  **The backtick is the second group of what begins a pattern just if the
  expression in it has no group of its own that captures.**

  The tag is the first group.  The groups inside it open before the backtick's
  does, and are numbered from the left like all others (`numbers_of_parse`); but a
  pattern names its captures by the numbers one and two, whatever the expression.
-/

namespace QuasiGrammar

/-! ## §1. Expressions. -/

namespace Regex

variable {e : Expression}

/-- The group of the backtick that opens a template literal, with its number. -/
def backtickGroup (index : Nat) : Item := .group (some index) [] [] [.literal '`'.toNat]

/-- The last item is the group of the backtick and the second group that is opened; the one that is
opened before it is the first. -/
def Expression.BacktickIsSecond (e : Expression) : Prop :=
  ∃ before, e.items = before ++ [backtickGroup 2] ∧ allNumbers before = [1]

/-- In the frame, the numbers are those of the tag, of the groups in it and of the backtick. -/
theorem allNumbers_framed (e : Expression) :
    allNumbers e.framed.items = 1 :: (allNumbers (renumberedAll e.items) ++ [e.nextGroup + 1]) := by
  show allNumbers (framedItems e.nextGroup e.items) = _
  simp [framedItems, blanks, allNumbers, Item.numbers]

/-- There are as many groups in the tag as there were alone. -/
theorem length_numbers_renumbered {source : List Char} (h : parse source = .ok e) (hs : e.Sound) :
    (allNumbers (renumberedAll e.items)).length = (allNumbers e.items).length := by
  have halone := (numbers_of_parse h).next
  have hframed := (numbers_of_parse ((parse_framedChars h).1 hs)).next
  rw [allNumbers_framed] at hframed
  have hnext : e.framed.nextGroup = e.nextGroup + 2 := rfl
  simp only [List.length_cons, List.length_append, List.length_nil] at hframed
  omega

/-- The backtick comes second if no other group captures, and only then. -/
theorem backtickIsSecond_framed_iff {source : List Char} (h : parse source = .ok e)
    (hs : e.Sound) : e.framed.BacktickIsSecond ↔ allNumbers e.items = [] := by
  have hlength := length_numbers_renumbered h hs
  have hitems : e.framed.items =
      [blanks .possessive, .group (some 1) [] [] (renumberedAll e.items), blanks .greedy] ++
        [backtickGroup (e.nextGroup + 1)] := rfl
  have hnumbers : allNumbers
      [blanks .possessive, .group (some 1) [] [] (renumberedAll e.items), blanks .greedy] =
        1 :: allNumbers (renumberedAll e.items) := by
    simp [blanks, allNumbers, Item.numbers]
  constructor
  · rintro ⟨before, hbefore, hone⟩
    obtain ⟨rfl, -⟩ := List.append_inj' (hitems.symm.trans hbefore) rfl
    rw [hnumbers, List.cons.injEq] at hone
    rw [hone.2] at hlength
    exact List.length_eq_zero_iff.1 hlength.symm
  · intro hnone
    have hnext := (numbers_of_parse h).next
    rw [hnone] at hlength hnext
    refine ⟨_, ?_, hnumbers.trans ?_⟩
    · rw [hitems, hnext]
      rfl
    · rw [List.length_eq_zero_iff.1 hlength]

theorem allNumbers_literals (cs : List Char) : allNumbers (literals cs) = [] := by
  induction cs with
  | nil => rfl
  | cons c cs ih => rw [literals_cons, allNumbers, ih, Item.numbers, List.append_nil]

end Regex

/-! ## §2. Rules. -/

namespace Rule

open Regex

/-- What begins a literal's pattern has the backtick second. -/
theorem backtickIsSecond_literal (tag : List Char) :
    (literalExpression tag).framed.BacktickIsSecond :=
  (backtickIsSecond_framed_iff (read_ok_iff.1 (read_escapeLiteral tag)).1
    (begins_literalExpression tag).toSound).2 (allNumbers_literals tag)

/-- What begins with an expression that reads well has the backtick second if the expression can
begin a pattern and captures nothing. -/
theorem backtick_is_second_in_quotes_iff {source : String} {e : Expression}
    (hread : read source.toList = .ok e) :
    (∃ e', read (Pattern.beginWith source).toList = .ok e' ∧ e'.BacktickIsSecond) ↔
      e.Begins ∧ allNumbers e.items = [] := by
  have hparse := (read_ok_iff.1 hread).1
  simp only [read_beginWith_iff hparse]
  constructor
  · rintro ⟨_, ⟨hb, rfl⟩, hsecond⟩
    exact ⟨hb, (backtickIsSecond_framed_iff hparse hb.toSound).1 hsecond⟩
  · rintro ⟨hb, hnone⟩
    exact ⟨_, ⟨hb, rfl⟩, (backtickIsSecond_framed_iff hparse hb.toSound).2 hnone⟩

/-- **The second group of what begins a rule's pattern is the backtick just if the rule is a literal,
or the expression in quotes can begin a pattern and captures nothing.** -/
theorem backtick_is_second_iff {text : String} {p : Pattern}
    (hcompile : compile (some Regex.engine) text = .ok p) :
    (∃ e, read p.beginRegex.toList = .ok e ∧ e.BacktickIsSecond) ↔
      IsLiteral text ∨ ∃ inner scope e, text.toList = inQuotes inner ++ ':' :: scope ∧
        ':' ∉ scope ∧ read inner = .ok e ∧ e.Begins ∧ allNumbers e.items = [] := by
  obtain ⟨source, scope, hmeans, hscope, rfl⟩ := means_of_compile hcompile
  show (∃ e, read (Pattern.beginWith source).toList = .ok e ∧ e.BacktickIsSecond) ↔ _
  cases hmeans with
  | @literal tag scope htext hlast hquotes =>
    exact ⟨fun _ => .inl ⟨tag, scope, htext, hlast, hquotes⟩,
      fun _ => ⟨_, read_beginWith_literal tag, backtickIsSecond_literal tag⟩⟩
  | @regex inner scope htext hlast =>
    rw [String.toList_ofList] at hscope
    obtain ⟨-, e, hread⟩ := exists_read_of_compile htext hscope hcompile
    rw [backtick_is_second_in_quotes_iff hread]
    rw [String.toList_ofList] at hread
    constructor
    · exact fun h => .inr ⟨inner, scope, e, htext, hlast, hread, h⟩
    · rintro (⟨tag, scope', htext', hlast', hquotes⟩ | ⟨inner', scope', e', htext', hlast', hread', h⟩)
      · exact absurd (eq_of_last_colon (htext'.symm.trans htext) hlast' hlast).1 (hquotes inner)
      · have hinner := (eq_of_last_colon (htext'.symm.trans htext) hlast' hlast).1
        have hinner := congrArg unquoted hinner
        rw [unquoted_inQuotes, unquoted_inQuotes] at hinner
        subst hinner
        cases hread.symm.trans hread'
        exact h

/-- A literal with a parenthesis in it has no group of its own. -/
theorem backtick_is_second_after_parenthesis :
    ∃ e, read (pattern ⟨.literal "f(", "s"⟩).beginRegex.toList = .ok e ∧ e.BacktickIsSecond := by
  have hcompile : compile (some Regex.engine) "f(:s" = .ok (pattern ⟨.literal "f(", "s"⟩) := by
    decide +kernel
  refine (backtick_is_second_iff hcompile).2 (.inl ⟨"f(".toList, ['s'], by decide, by decide, ?_⟩)
  exact fun inner h => absurd (isQuoted_iff.2 ⟨inner, h⟩) (by decide)

/-- A group in the expression in quotes is second, and the backtick third. -/
theorem backtick_is_third :
    compile (some Regex.engine) "\"(a)b\":s" = .ok (pattern ⟨.regex "(a)b", "s"⟩) ∧
      ∃ e, read (pattern ⟨.regex "(a)b", "s"⟩).beginRegex.toList = .ok e ∧
        allNumbers e.items = [1, 2, 3] ∧ e.items.getLast? = some (backtickGroup 3) ∧
        ¬ e.BacktickIsSecond := by
  have hparse : Regex.parse "(a)b".toList =
      .ok ⟨[.group (some 1) [] [] (literals ['a']), .literal 'b'.toNat], [(1, ⟨1, 1⟩)], [], 2⟩ := rfl
  have hbegins := (engine_beginWith_iff hparse).1 (by decide +kernel)
  refine ⟨by decide +kernel, _, (read_beginWith_iff hparse).2 ⟨hbegins, rfl⟩, rfl, rfl, ?_⟩
  intro hsecond
  exact absurd ((backtickIsSecond_framed_iff hparse hbegins.toSound).1 hsecond) (by decide)

end Rule

end QuasiGrammar
