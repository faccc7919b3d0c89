import QuasiGrammar.Proofs.Regex.Behind
import QuasiGrammar.Proofs.Regex.Escape
import QuasiGrammar.Proofs.Rule.Sense

/-
  QuasiGrammar.Proofs.Rule.Closing
  ────────────────────────────────
  **A pattern ends at a backtick after no backslash or after exactly two.**

  The expression that ends a pattern looks back from the backtick for one of four
  things:

      another character than a backslash, and two backslashes
      another character than a backslash
      the beginning of the line, and two backslashes
      the beginning of the line

  Together they say that the run of backslashes before the backtick has length none
  or two (`closes_iff`).  So no backtick ends a pattern that a backslash escapes; but
  after four backslashes, or six, one that none escapes does not end it either.
-/

namespace QuasiGrammar

open Regex

/-! ## §1. How the expression is read. -/

namespace Regex

/-- Any character but a backslash. -/
def noBackslash : Item := .set true [.single '\\'.toNat]

/-- What is looked for before a backtick. -/
def beforeClosing : List (List Item) :=
  [noBackslash :: literals ['\\', '\\'], [noBackslash],
    .anchor .lineStart :: literals ['\\', '\\'], [.anchor .lineStart]]

/-- The backtick, in two groups. -/
def closingGroup : Item := .group (some 1) [] [] [.group (some 2) [] [] (literals ['`'])]

/-- The items of the expression that ends a pattern. -/
def closingItems : List Item :=
  [blanks .greedy, .look false false [.branch beforeClosing], closingGroup]

/-- The tokens of what is looked for. -/
def beforeTokens : List Token :=
  [.plain '[', .plain '^', .escaped '\\', .plain ']', .escaped '\\', .escaped '\\', .plain '|',
    .plain '[', .plain '^', .escaped '\\', .plain ']', .plain '|',
    .plain '^', .escaped '\\', .escaped '\\', .plain '|', .plain '^']

/-- The tokens of the lookbehind after its parenthesis. -/
def lookTokens : List Token :=
  [.plain '?', .plain '<', .plain '='] ++ (beforeTokens ++ [.plain ')'])

/-- The tokens of the inner group, and the parenthesis that closes the outer one. -/
def innerTokens : List Token := [.plain '(', .plain '`', .plain ')', .plain ')']

theorem tokens_endRegexSource :
    tokens Pattern.endRegexSource.toList =
      (.escaped 's' :: .plain '*' :: .plain '(' :: (lookTokens ++ .plain '(' :: innerTokens),
        false) := by
  decide

theorem readItems_blanks (n : Nat) (more : List Token) :
    ∃ place, readItems (n + 2) false true []
        (Scan.bare (.escaped 's' :: .plain '*' :: .plain '(' :: more) 0) =
      readItems n false true [blanks .greedy] (Scan.bare (.plain '(' :: more) place) :=
  ⟨_, rfl⟩

/-- What is looked for is a choice between four sequences. -/
theorem readChoice_beforeTokens (n place : Nat) (more : List Token) :
    ∃ place', inLook false (readChoice (n + 10) false false)
        (Scan.bare (beforeTokens ++ .plain ')' :: more) place) =
      .ok ([.branch beforeClosing], Scan.bare (.plain ')' :: more) place') :=
  ⟨_, rfl⟩

/-- The lookbehind is read, if a group follows. -/
theorem readItems_lookTokens (n place : Nat) (acc : List Item) (more : List Token) :
    ∃ place', readItems (n + 12) false true acc
        (Scan.bare (.plain '(' :: (lookTokens ++ .plain '(' :: more)) place) =
      readItems (n + 11) false true (.look false false [.branch beforeClosing] :: acc)
        (Scan.bare (.plain '(' :: more) place') := by
  obtain ⟨stop, hbody⟩ := readChoice_beforeTokens n (place + 4) (.plain '(' :: more)
  have hopen : readOpening place (Scan.bare (lookTokens ++ .plain '(' :: more) (place + 1)) =
      .ok (.look false false,
        Scan.bare (beforeTokens ++ .plain ')' :: .plain '(' :: more) (place + 4)) := rfl
  obtain ⟨next, hclose⟩ : ∃ place',
      expectClosing place (Scan.bare (.plain ')' :: .plain '(' :: more) stop) =
        .ok ((), Scan.bare (.plain '(' :: more) place') := ⟨_, rfl⟩
  rw [readItems_of_cons rfl rfl (by decide) (by decide)]
  show ∃ place', (readParenthesis (readGroup (n + 11) false place) false true place acc >>= fun p =>
    readItems (n + 11) p.1 true p.2) (Scan.bare (lookTokens ++ .plain '(' :: more) (place + 1)) = _
  rw [readParenthesis, bind_assoc, bind_of_ok hopen, if_neg (by decide), readGroup]
  simp only [bind_assoc, pure_bind]
  rw [bind_of_ok hbody, bind_of_ok hclose]
  exact ⟨next, rfl⟩

/-- The inner group, up to the parenthesis that closes the outer one. -/
theorem readChoice_innerTokens (n place : Nat) :
    ∃ t, readChoice (n + 6) false false
        ⟨innerTokens, false, place, 2, [], [], none, [], []⟩ =
        .ok ([.group (some 2) [] [] (literals ['`'])], t) ∧
      t.rest = [.plain ')'] ∧ t.broken = false ∧ t.flags = [] ∧ t.conditions = [] :=
  ⟨_, rfl, rfl, rfl, rfl, rfl⟩

theorem readItems_innerTokens (n place : Nat) (acc : List Item) :
    ∃ t, readItems (n + 9) false true acc (Scan.bare (.plain '(' :: innerTokens) place) =
        .ok ((closingGroup :: acc).reverse, t) ∧
      t.rest = [] ∧ t.flags = [] ∧ t.conditions = [] := by
  obtain ⟨⟨rest, broken, stop, next, names, widths, behind, conditions, flags⟩, hbody, rfl, rfl,
    rfl, rfl⟩ := readChoice_innerTokens (n + 1) (place + 1)
  have hopening : readOpening place (Scan.bare innerTokens (place + 1)) =
      .ok (.group none, Scan.bare innerTokens (place + 1)) := rfl
  have hopen : openGroup none (Scan.bare innerTokens (place + 1)) =
      .ok (1, ⟨innerTokens, false, place + 1, 2, [], [], none, [], []⟩) := rfl
  rw [readItems_of_cons rfl rfl (by decide) (by decide)]
  show ∃ t, (readParenthesis (readGroup (n + 8) false place) false true place acc >>= fun p =>
    readItems (n + 8) p.1 true p.2) (Scan.bare innerTokens (place + 1)) = _ ∧ _
  rw [readParenthesis, bind_assoc, bind_of_ok hopening, if_neg (by decide), readGroup]
  simp only [bind_assoc, pure_bind]
  rw [bind_of_ok hopen, bind_of_ok hbody]
  exact ⟨_, rfl, rfl, rfl, rfl⟩

/-- The expression that ends a pattern is read: how long a text its lookbehind looks for is not
asked by who reads. -/
theorem parse_endRegexSource :
    ∃ e, parse Pattern.endRegexSource.toList = .ok e ∧ e.items = closingItems ∧ e.flags = [] := by
  have hwhole : (tokens Pattern.endRegexSource.toList).2 = false := by rw [tokens_endRegexSource]
  obtain ⟨n, hn⟩ : ∃ n, 4 * Pattern.endRegexSource.toList.length + 8 = n + 15 + 1 :=
    ⟨136, by decide⟩
  -- First the blanks, then the lookbehind, then the groups.
  obtain ⟨first, hblanks⟩ := readItems_blanks (n + 13) (lookTokens ++ .plain '(' :: innerTokens)
  obtain ⟨second, hlook⟩ := readItems_lookTokens (n + 1) first [blanks .greedy] innerTokens
  obtain ⟨t, hgroup, hrest, hflags, hconditions⟩ :=
    readItems_innerTokens (n + 3) second [.look false false [.branch beforeClosing], blanks .greedy]
  have hitems := hblanks.trans (hlook.trans hgroup)
  refine ⟨⟨closingItems, t.widths, t.flags, t.nextGroup⟩, parse_ok_iff.2 ⟨?_, t, ?_, ?_⟩, rfl,
    hflags⟩
  · rw [settle_eq, start_of_whole hwhole, Bool.and_false]
    rfl
  · rw [start_of_whole hwhole, hn, tokens_endRegexSource, readChoice]
    exact (bind_of_ok hitems).trans (bind_of_ok (readAlternatives_of_nil hrest _ _ _))
  · exact ⟨hrest, by rw [hflags]; rfl, by rw [danglingCondition?, hconditions]; rfl, rfl⟩

/-! ## §2. What is looked for. -/

variable {a : Alphabet} {p q : Point}

/-- The characters that are looked for, after those before them. -/
inductive BeforeClosing : List Char → List Char → Prop
  | pairAfter (before : List Char) {d : Char} (hd : d ≠ '\\') : BeforeClosing before [d, '\\', '\\']
  | other (before : List Char) {d : Char} (hd : d ≠ '\\') : BeforeClosing before [d]
  | pairAtStart : BeforeClosing [] ['\\', '\\']
  | start : BeforeClosing [] []

theorem mem_beforeClosing :
    q ∈ allPaths a [.branch beforeClosing] [] p ↔
      ∃ cs, BeforeClosing p.before cs ∧ p.Passes cs q := by
  rw [allPaths_singleton, Item.paths, mem_eachPaths]
  simp only [beforeClosing, noBackslash, List.mem_cons, List.not_mem_nil, or_false,
    exists_eq_or_imp, exists_eq_left, mem_allPaths_cons, mem_allPaths_nil, mem_paths_except,
    mem_paths_lineStart, mem_allPaths_literals]
  constructor
  · rintro (⟨r, ⟨d, hd, hr⟩, h⟩ | ⟨_, ⟨d, hd, h⟩, rfl⟩ | ⟨_, ⟨hstart, rfl⟩, h⟩ |
      ⟨_, ⟨hstart, rfl⟩, rfl⟩)
    · exact ⟨_, .pairAfter _ hd, Point.Passes.cons_iff.2 ⟨r, hr, h⟩⟩
    · exact ⟨_, .other _ hd, h⟩
    · exact ⟨_, hstart ▸ .pairAtStart, h⟩
    · exact ⟨_, hstart ▸ .start, Point.Passes.nil_iff.2 rfl⟩
  · rintro ⟨cs, hcs, h⟩
    generalize p.before = before at hcs
    cases hcs with
    | pairAfter _ hd =>
      obtain ⟨r, hr, h⟩ := Point.Passes.cons_iff.1 h
      exact .inl ⟨r, ⟨_, hd, hr⟩, h⟩
    | other _ hd => exact .inr (.inl ⟨_, ⟨_, hd, h⟩, rfl⟩)
    | pairAtStart => exact .inr (.inr (.inl ⟨p, ⟨rfl, rfl⟩, h⟩))
    | start => exact .inr (.inr (.inr ⟨p, ⟨rfl, rfl⟩, Point.Passes.nil_iff.1 h⟩))

end Regex

namespace Rule

/-- The run of backslashes at the end of a text is what stands there behind another character, or
behind nothing. -/
theorem trailingBackslashes_eq_iff {cs : List Char} {n : Nat} :
    trailingBackslashes cs = n ↔
      ∃ rest, cs.reverse = List.replicate n '\\' ++ rest ∧ ∀ c ∈ rest.head?, c ≠ '\\' := by
  unfold trailingBackslashes
  constructor
  · rintro rfl
    refine ⟨cs.reverse.dropWhile (· == '\\'), ?_, fun c hc => ?_⟩
    · have hrun : cs.reverse.takeWhile (· == '\\') =
          List.replicate (cs.reverse.takeWhile (· == '\\')).length '\\' :=
        List.eq_replicate_iff.2 ⟨rfl, fun c hc => by simpa using List.mem_takeWhile_imp hc⟩
      rw [← hrun, List.takeWhile_append_dropWhile]
    · have hhead := List.head?_dropWhile_not (· == '\\') cs.reverse
      rw [Option.mem_def.1 hc] at hhead
      simpa using hhead
  · rintro ⟨rest, hcs, hhead⟩
    have hrest : rest.takeWhile (· == '\\') = [] := by
      cases rest with
      | nil => rfl
      | cons c rest => simpa using hhead c rfl
    rw [hcs, List.takeWhile_append_of_pos (by simp), hrest, List.append_nil, List.length_replicate]

/-- Before a point stands one of the four things just if the run of backslashes there has length
none or two. -/
theorem closes_iff {a : Alphabet} {p : Point} {before : List Char}
    (hp : p.before = before.reverse) :
    p.Follows a [] [.branch beforeClosing] ↔
      trailingBackslashes before = 0 ∨ trailingBackslashes before = 2 := by
  rw [follows_iff fun _ _ => mem_beforeClosing, hp, trailingBackslashes_eq_iff,
    trailingBackslashes_eq_iff]
  constructor
  · rintro ⟨others, cs, hbefore, hcs⟩
    cases hcs with
    | pairAfter _ hd =>
      refine .inr ⟨_ :: others, hbefore, ?_⟩
      rintro _ ⟨⟩
      exact hd
    | other _ hd =>
      refine .inl ⟨_ :: others, hbefore, ?_⟩
      rintro _ ⟨⟩
      exact hd
    | pairAtStart => exact .inr ⟨[], hbefore, by simp⟩
    | start => exact .inl ⟨[], hbefore, by simp⟩
  · -- What stands behind the run is another character, or the beginning of the line.
    rintro (⟨_ | ⟨d, others⟩, hbefore, hhead⟩ | ⟨_ | ⟨d, others⟩, hbefore, hhead⟩)
    · exact ⟨[], [], hbefore, .start⟩
    · exact ⟨others, [d], hbefore, .other _ (hhead d rfl)⟩
    · exact ⟨[], ['\\', '\\'], hbefore, .pairAtStart⟩
    · exact ⟨others, [d, '\\', '\\'], hbefore, .pairAfter _ (hhead d rfl)⟩

/-! ## §3. Where patterns end. -/

/-- Both groups hold the backtick. -/
theorem mem_allPaths_closingGroup {a : Alphabet} {p q : Point} :
    q ∈ allPaths a [closingGroup] [] p ↔
      ∃ r, p.Passes ['`'] r ∧ q = { r with groups := (1, ['`']) :: (2, ['`']) :: r.groups } := by
  have hflags : flagsInside [] [] [] = [] := rfl
  rw [allPaths_singleton, closingGroup, Item.paths, hflags, allPaths_singleton, List.mem_map]
  simp only [mem_paths_group_literals]
  have houter : ∀ r : Point, p.Passes ['`'] r →
      Point.mk r.before r.after ((1, p.textTo r) :: (2, ['`']) :: r.groups) =
        { r with groups := (1, ['`']) :: (2, ['`']) :: r.groups } := fun r hr => by rw [hr.textTo]
  constructor
  · rintro ⟨_, ⟨r, hr, rfl⟩, rfl⟩
    exact ⟨r, hr, houter r hr⟩
  · rintro ⟨r, hr, rfl⟩
    exact ⟨_, ⟨r, hr, rfl⟩, houter r hr⟩

/-- A match of the expression that ends a pattern can end right after a backtick just if the run of
backslashes before it has length none or two. -/
theorem mem_ends_closing {a : Alphabet} {e : Expression} (hitems : e.items = closingItems)
    (hflags : e.flags = []) (before after : List Char) :
    before.length + 1 ∈ e.ends a (before ++ '`' :: after) ↔
      trailingBackslashes before = 0 ∨ trailingBackslashes before = 2 := by
  rw [mem_ends, hitems, hflags]
  constructor
  · rintro ⟨start, rest, htext, q, hq, hend⟩
    obtain ⟨p₁, hblanks, hq⟩ := mem_allPaths_cons.1 hq
    obtain ⟨p₂, hlook, hq⟩ := mem_allPaths_cons.1 hq
    obtain ⟨w, -, h₁⟩ := mem_paths_blanks.1 hblanks
    obtain ⟨hfollows, hbefore, -⟩ := mem_paths_lookbehind hlook
    obtain ⟨r, hr, rfl⟩ := mem_allPaths_closingGroup.1 hq
    -- The lookbehind stands where the backtick does.
    have hp₁ : p₁.before = (start ++ w).reverse := by rw [h₁.before, List.reverse_append]
    have hlength : (start ++ w).length = before.length := by
      have hr' : r.before.length = p₁.before.length + 1 := by rw [hr.before, hbefore]; simp
      rw [hp₁, List.length_reverse] at hr'
      exact Nat.succ.inj (hr'.symm.trans hend)
    have htext' : before ++ '`' :: after = (start ++ w) ++ p₁.after := by
      rw [htext, List.append_assoc]
      exact congrArg _ h₁.after
    rw [(List.append_inj htext' hlength.symm).1]
    exact (closes_iff hp₁).1 hfollows
  · intro hrun
    obtain ⟨p, hlook, hbefore, hafter⟩ := exists_mem_paths_lookbehind
      ((closes_iff (a := a) (p := ⟨before.reverse, '`' :: after, []⟩) rfl).2 hrun)
    have hpasses : p.Passes ['`'] (p.past ['`'] after) := Point.passes_past hafter
    refine ⟨before, '`' :: after, rfl, _, mem_allPaths_cons.2 ⟨_, mem_paths_blanks.2
      ⟨[], rfl, Point.Passes.nil_iff.2 rfl⟩, mem_allPaths_cons.2 ⟨p, hlook,
        mem_allPaths_closingGroup.2 ⟨_, hpasses, rfl⟩⟩⟩, ?_⟩
    show (['`'].reverse ++ p.before).length = _
    rw [hbefore]
    simp

/-- **A pattern ends at a backtick after no backslash or after exactly two.**  The expression that
ends the pattern of a rule can match up to a backtick of a line, from wherever in the line, just if
the run of backslashes right before the backtick has length none or two. -/
theorem closes_at_backtick_iff (a : Alphabet) {engine : Option Engine} {text : String} {p : Pattern}
    (hcompile : compile engine text = .ok p) :
    ∃ e, Regex.parse p.endRegex.toList = .ok e ∧ ∀ before after : List Char,
      (before.length + 1 ∈ e.ends a (before ++ '`' :: after) ↔
        trailingBackslashes before = 0 ∨ trailingBackslashes before = 2) := by
  obtain ⟨source, scope, -, -, rfl⟩ := means_of_compile hcompile
  have hend : (patternOf source scope).endRegex = Pattern.endRegexSource := rfl
  obtain ⟨e, hparse, hitems, hflags⟩ := parse_endRegexSource
  rw [hend]
  exact ⟨e, hparse, mem_ends_closing hitems hflags⟩

/-- After two backslashes a backtick ends a pattern, and after three it does not. -/
theorem closes_at_backtick_after_two :
    compile none "b:s" = .ok (pattern ⟨.literal "b", "s"⟩) ∧
      ∃ e, Regex.parse (pattern ⟨.literal "b", "s"⟩).endRegex.toList = .ok e ∧
        3 ∈ e.ends .ascii ("\\\\".toList ++ '`' :: []) ∧
        4 ∉ e.ends .ascii ("\\\\\\".toList ++ '`' :: []) := by
  have hcompile : compile none "b:s" = .ok (pattern ⟨.literal "b", "s"⟩) := by decide +kernel
  obtain ⟨e, hparse, hends⟩ := closes_at_backtick_iff .ascii hcompile
  refine ⟨hcompile, e, hparse, (hends "\\\\".toList []).2 (by decide), fun h => ?_⟩
  exact absurd ((hends "\\\\\\".toList []).1 h) (by decide)

/-- After four backslashes, which escape each other, a backtick does not end a pattern. -/
theorem closes_not_after_four :
    trailingBackslashes "\\\\\\\\".toList % 2 = 0 ∧
      compile none "b:s" = .ok (pattern ⟨.literal "b", "s"⟩) ∧
      ∃ e, Regex.parse (pattern ⟨.literal "b", "s"⟩).endRegex.toList = .ok e ∧
        5 ∉ e.ends .ascii ("\\\\\\\\".toList ++ '`' :: []) := by
  have hend : (pattern ⟨.literal "b", "s"⟩).endRegex = Pattern.endRegexSource := rfl
  obtain ⟨e, hparse, hitems, hflags⟩ := parse_endRegexSource
  rw [hend]
  refine ⟨by decide, by decide +kernel, e, hparse, fun h => ?_⟩
  exact absurd ((mem_ends_closing hitems hflags "\\\\\\\\".toList []).1 h) (by decide)

end Rule

end QuasiGrammar
