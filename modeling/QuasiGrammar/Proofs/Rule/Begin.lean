import QuasiGrammar.Proofs.Regex.Frame
import QuasiGrammar.Proofs.Regex.Steady
import QuasiGrammar.Proofs.Rule.Form

/-
  QuasiGrammar.Proofs.Rule.Begin
  ──────────────────────────────
  **The expression that begins a rule's pattern is accepted just if the one in
  quotes can begin a pattern.**

  The engine is asked about the expression in quotes, and what begins the pattern
  holds it as its first group.
-/

namespace QuasiGrammar

open Text

/-! ## §1. Steady expressions. -/

namespace Regex

variable {e : Expression}

theorem engine_ne_unchecked (source : String) : engine source ≠ .unchecked := by
  unfold engine
  cases read source.toList with
  | ok e => exact nofun
  | error r => cases r <;> exact nofun

theorem flaw?_framed (hflags : e.flags = []) :
    e.framed.flaw? = flawIn? e.framed.groupWidth false (renumberedAll e.items) := by
  have hframed : e.framed.flags = [] := hflags
  rw [Expression.flaw?, hframed]
  show flawIn? _ false (framedItems e.nextGroup e.items) = _
  simp only [framedItems, blanks, flawIn?, Item.flaw?]
  cases flawIn? e.framed.groupWidth false (renumberedAll e.items) <;> rfl

theorem anyLooksTooFar_framed :
    anyLooksTooFar e.framed.groupWidth e.framed.items =
      anyLooksTooFar e.framed.groupWidth (renumberedAll e.items) := by
  show anyLooksTooFar _ (framedItems e.nextGroup e.items) = _
  simp [framedItems, blanks, anyLooksTooFar, Item.looksTooFar]

/-- An expression can begin a pattern if it sets no flags for the whole, tells its groups by their
names, and tells none in a lookbehind. -/
theorem begins_of_steady {source : List Char} (h : read source = .ok e) (hflags : e.flags = [])
    (hsteady : allSteady false e.items = true) : e.Begins := by
  obtain ⟨-, hflaw, hfar⟩ := read_ok_iff.1 h
  obtain ⟨hsame, hsameFar⟩ :=
    flawIn?_renumbered e.groupWidth e.framed.groupWidth false false e.items hsteady
  rw [Expression.flaw?, hflags] at hflaw
  refine ⟨⟨hflags, allFit_of_steady [] false e.items hsteady⟩, ?_, ?_⟩
  · rw [flaw?_framed hflags, hsame]
    exact hflaw
  · rw [anyLooksTooFar_framed, hsameFar, hfar]

end Regex

/-! ## §2. Rules. -/

namespace Rule

/-- What a rule in quotes compiles to begins with the expression in quotes, which reads well. -/
theorem exists_read_of_compile {text : String} {inner scope : List Char} {p : Pattern}
    (htext : text.toList = inQuotes inner ++ ':' :: scope) (hscope : ScopeForm scope)
    (hcompile : compile (some Regex.engine) text = .ok p) :
    p.beginRegex = Pattern.beginWith (String.ofList inner) ∧
      ∃ e, Regex.read (String.ofList inner).toList = .ok e := by
  by_cases hempty : inner = []
  · -- Quotes with nothing in them make no rule.
    subst hempty
    have hparse := parse_of_scope htext hscope (by simp [inQuotes])
    rw [parseMatch, if_pos (isQuoted_inQuotes []), if_pos (unquoted_inQuotes [])] at hparse
    rw [compile_of_parse_error hparse] at hcompile
    cases hcompile
  · rw [compile_inQuotes htext hscope hempty, judge] at hcompile
    cases hverdict : Regex.engine (String.ofList inner) with
    | unchecked => exact absurd hverdict (Regex.engine_ne_unchecked _)
    | accepted =>
      simp only [hverdict] at hcompile
      cases hcompile
      exact ⟨rfl, Regex.engine_eq_accepted_iff.1 hverdict⟩
    | rejected detail =>
      simp only [hverdict] at hcompile
      cases hcompile
    | failed f =>
      simp only [hverdict] at hcompile
      cases hcompile

/-- **The expression that begins a rule's pattern is accepted just if the one in quotes can begin a
pattern.** -/
theorem begin_accepted_iff {text : String} {inner scope : List Char} {p : Pattern}
    (htext : text.toList = inQuotes inner ++ ':' :: scope) (hscope : ScopeForm scope)
    (hcompile : compile (some Regex.engine) text = .ok p) :
    ∃ e, Regex.read inner = .ok e ∧ (Regex.engine p.beginRegex = .accepted ↔ e.Begins) := by
  obtain ⟨hbegin, e, hread⟩ := exists_read_of_compile htext hscope hcompile
  rw [hbegin, Regex.engine_beginWith_iff (Regex.read_ok_iff.1 hread).1]
  rw [String.toList_ofList] at hread
  exact ⟨e, hread, Iff.rfl⟩

/-- The patterns of two rules that tell no group by a number begin well or not, as flags are set for
a group or for the whole. -/
theorem begin_accepted_flags :
    (∃ e, Regex.read "(?i:a)(?P<b>c)(?P=b)".toList = .ok e ∧ e.Begins) ∧
      ∃ e, Regex.read "(?i)a".toList = .ok e ∧ ¬ e.Begins := by
  have hscope : ScopeForm ['s'] := isScope_iff.1 (by decide)
  constructor
  · have htext : "\"(?i:a)(?P<b>c)(?P=b)\":s".toList =
        inQuotes "(?i:a)(?P<b>c)(?P=b)".toList ++ ':' :: ['s'] := by decide
    have hcompile : compile (some Regex.engine) "\"(?i:a)(?P<b>c)(?P=b)\":s" =
        .ok (pattern ⟨.regex "(?i:a)(?P<b>c)(?P=b)", "s"⟩) := by decide +kernel
    obtain ⟨e, hread, hiff⟩ := begin_accepted_iff htext hscope hcompile
    exact ⟨e, hread, hiff.1 (by decide +kernel)⟩
  · have htext : "\"(?i)a\":s".toList = inQuotes "(?i)a".toList ++ ':' :: ['s'] := by decide
    have hcompile : compile (some Regex.engine) "\"(?i)a\":s" =
        .ok (pattern ⟨.regex "(?i)a", "s"⟩) := by decide +kernel
    obtain ⟨e, hread, hiff⟩ := begin_accepted_iff htext hscope hcompile
    exact ⟨e, hread, fun hb => absurd (hiff.2 hb) (by decide +kernel)⟩

/-- Flags for the whole expression come too late in the frame, and a number may tell a group that is
open there: two rules that compile to patterns with a beginning that the engine refuses. -/
theorem begin_refused :
    (question? "\"(?i)a\":s" = some "(?i)a" ∧
      compile (some Regex.engine) "\"(?i)a\":s" = .ok (pattern ⟨.regex "(?i)a", "s"⟩) ∧
      Regex.engine (pattern ⟨.regex "(?i)a", "s"⟩).beginRegex =
        .rejected "global flags not at the start of the expression at position 5") ∧
    question? "\"(a)\\1\":s" = some "(a)\\1" ∧
      compile (some Regex.engine) "\"(a)\\1\":s" = .ok (pattern ⟨.regex "(a)\\1", "s"⟩) ∧
      Regex.engine (pattern ⟨.regex "(a)\\1", "s"⟩).beginRegex =
        .rejected "cannot refer to an open group at position 8" := by
  decide +kernel

/-- A rule in quotes whose expression sets no flags for the whole, tells its groups by their names,
and tells none in a lookbehind has a pattern that begins well. -/
theorem begin_accepted_of_steady {text : String} {inner scope : List Char} {p : Pattern}
    {e : Regex.Expression} (htext : text.toList = inQuotes inner ++ ':' :: scope)
    (hscope : ScopeForm scope) (hcompile : compile (some Regex.engine) text = .ok p)
    (hread : Regex.read inner = .ok e) (hflags : e.flags = [])
    (hsteady : Regex.allSteady false e.items = true) : Regex.engine p.beginRegex = .accepted := by
  obtain ⟨hbegin, -⟩ := exists_read_of_compile htext hscope hcompile
  have hparse : Regex.parse (String.ofList inner).toList = .ok e := by
    rw [String.toList_ofList]
    exact (Regex.read_ok_iff.1 hread).1
  rw [hbegin, Regex.engine_beginWith_iff hparse]
  exact Regex.begins_of_steady hread hflags hsteady

end Rule

end QuasiGrammar
