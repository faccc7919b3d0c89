import QuasiGrammar.Pattern
import QuasiGrammar.Proofs.Regex.Sequences

/-
  QuasiGrammar.Proofs.Regex.Frame
  ───────────────────────────────
  **An expression that reads well begins a pattern if it sets no flags for the
  whole, tells no open group by a number there, and has no flaw there.**

      frameStart   the tokens before the expression
      frameEnd     the tokens after it
-/

namespace QuasiGrammar.Regex

open Text

variable {s s' t t' : Scan} {source : List Char} {e : Expression}

/-! ## §1. Tokens. -/

/-- The tokens before the tag in the expression that begins a pattern. -/
def frameStart : List Token := [.escaped 's', .plain '*', .plain '+', .plain '(']

/-- The characters before an expression in the one that begins a pattern. -/
def charsBefore : List Char := ['\\', 's', '*', '+', '(']

/-- The characters after it. -/
def charsAfter : List Char := [')', '\\', 's', '*', '(', '`', ')']

/-- The expression that begins a pattern, as characters. -/
def framedChars (source : List Char) : List Char := charsBefore ++ (source ++ charsAfter)

theorem toList_beginWith (source : String) :
    (Pattern.beginWith source).toList = framedChars source.toList := by
  simp [Pattern.beginWith, framedChars, charsBefore, charsAfter]

theorem tokens_framedChars (h : (tokens source).2 = false) :
    tokens (framedChars source) = (frameStart ++ ((tokens source).1 ++ frameEnd), false) := by
  have hbefore : (tokens charsBefore).2 = false := rfl
  rw [framedChars, tokens_append hbefore, tokens_append h]
  rfl

/-! ## §2. Around the expression. -/

/-- The reader where the expression begins in the frame; the first group has been opened. -/
def framedStart (ts : List Token) : Scan := ⟨ts ++ frameEnd, false, 5, 2, [], [], none, [], []⟩

theorem inside_framedStart (ts : List Token) :
    Inside [] false ⟨ts, false, 0, 1, [], [], none, [], []⟩ (framedStart ts) := by
  refine ⟨⟨rfl, rfl⟩, rfl, Nat.one_pos, rfl, fun _ => rfl, fun i => ⟨nofun, fun h => ?_⟩, nofun,
    rfl, rfl, rfl, rfl⟩
  have hless : i < 1 := h.2.1
  have hpositive := h.1
  omega

theorem readItems_of_cons {u : Token} {more : List Token} {fuel : Nat} {verbose first : Bool}
    {acc : List Item} (hrest : t.rest = u :: more) (hwhole : t.broken = false)
    (hbar : u ≠ .plain '|') (hclose : u ≠ .plain ')') :
    readItems (fuel + 1) verbose first acc t =
      (readToken (readGroup fuel verbose t.place) verbose first t.place acc u >>= fun p =>
        readItems fuel p.1 first p.2) (t.skipped 1) := by
  rw [readItems, peek_bind, hrest, List.head?_cons]
  generalize hu : some u = next
  split
  · cases hu
  · cases hu
    exact absurd rfl hbar
  · cases hu
    exact absurd rfl hclose
  · cases hu
    rw [get_bind, bind_of_ok (skip_of_whole hwhole 1).1]

/-- Up to where the expression begins; then it is read as the body of the first group. -/
theorem readItems_frameStart {ts : List Token} (hmark : ts.head? ≠ some (.plain '?')) (n : Nat) :
    readItems (n + 4) false true []
        ⟨frameStart ++ (ts ++ frameEnd), false, 0, 1, [], [], none, [], []⟩ =
      (readChoice n false false >>= fun body => expectClosing 4 >>= fun _ =>
        closeGroup 1 body >>= fun _ => readItems (n + 1) false true
          [.group (some 1) [] [] body, blanks .possessive]) (framedStart ts) := by
  have hblanks : readItems (n + 4) false true []
      ⟨frameStart ++ (ts ++ frameEnd), false, 0, 1, [], [], none, [], []⟩ =
        readItems (n + 2) false true [blanks .possessive]
          ⟨.plain '(' :: (ts ++ frameEnd), false, 4, 1, [], [], none, [], []⟩ := rfl
  have hhead : (ts ++ frameEnd).head? ≠ some (.plain '?') := by
    rw [List.head?_append]
    cases hts : ts.head? with
    | none => simp [frameEnd]
    | some u => simpa [hts] using hmark
  have hopening : readOpening 4 ⟨ts ++ frameEnd, false, 5, 1, [], [], none, [], []⟩ =
      .ok (.group none, ⟨ts ++ frameEnd, false, 5, 1, [], [], none, [], []⟩) := by
    unfold readOpening
    rw [bind_of_ok (accept_of_not_head hhead)]
    rfl
  have hopen : openGroup none ⟨ts ++ frameEnd, false, 5, 1, [], [], none, [], []⟩ =
      .ok (1, framedStart ts) := rfl
  rw [hblanks, readItems_of_cons rfl rfl (by decide) (by decide)]
  show (readParenthesis (readGroup (n + 1) false 4) false true 4 [blanks .possessive] >>= fun p =>
    readItems (n + 1) p.1 true p.2) ⟨ts ++ frameEnd, false, 5, 1, [], [], none, [], []⟩ = _
  rw [readParenthesis, bind_assoc, bind_of_ok hopening, if_neg (by decide), readGroup]
  simp only [bind_assoc, pure_bind]
  rw [bind_of_ok hopen]
  rfl

/-- From the end of the expression on. -/
theorem readItems_frameEnd (hrest : t.rest = frameEnd) (hwhole : t.broken = false)
    (body : List Item) (n : Nat) :
    ∃ t', (expectClosing 4 >>= fun _ => closeGroup 1 body >>= fun _ => readItems (n + 9) false true
        [.group (some 1) [] [] body, blanks .possessive]) t =
          .ok ([blanks .possessive, .group (some 1) [] [] body, blanks .greedy,
            .group (some t.nextGroup) [] [] [.literal '`'.toNat]], t') ∧
      t'.rest = [] ∧ t'.flags = t.flags ∧ t'.conditions = t.conditions ∧
        t'.nextGroup = t.nextGroup + 1 := by
  obtain ⟨rest, broken, place, nextGroup, names, widths, lookbehind, conditions, flags⟩ := t
  subst hrest hwhole
  exact ⟨_, rfl, rfl, rfl, rfl, rfl⟩

theorem readAlternatives_of_nil (hrest : t.rest = []) (fuel : Nat) (verbose top : Bool) :
    readAlternatives fuel verbose top t = .ok ([], t) := by
  cases fuel with
  | zero =>
    rw [readAlternatives]
    rfl
  | succ fuel =>
    have hhead : t.rest.head? ≠ some (.plain '|') := by simp [hrest]
    rw [readAlternatives, bind_of_ok (accept_of_not_head hhead)]
    rfl

/-- No condition is on a group that there is not. -/
theorem danglingCondition?_eq_none_iff :
    danglingCondition? s = none ↔ ∀ c ∈ s.conditions, c.1 < s.nextGroup := by
  simp [danglingCondition?]

/-- A sign of repetition has nothing to repeat at the beginning. -/
theorem head_ne_question (h : parse source = .ok e) :
    (tokens source).1.head? ≠ some (.plain '?') := by
  intro hhead
  obtain ⟨-, s', hchoice, -⟩ := parse_ok_iff.1 h
  rw [readChoice] at hchoice
  obtain ⟨items, s₁, hitems, -⟩ := exists_of_bind_ok hchoice
  have hrest : (Scan.start source).rest.head? = some (.plain '?') := hhead
  rw [readItems, peek_bind, hrest] at hitems
  obtain ⟨_, _, hget, hitems⟩ := exists_of_bind_ok hitems
  obtain ⟨_, s₂, -, hitems⟩ := exists_of_bind_ok hitems
  obtain ⟨p, s₃, htoken, -⟩ := exists_of_bind_ok hitems
  cases htoken

/-! ## §3. The frame. -/

/-- No flags are set for the whole expression, and every number in it tells a closed group when a
group has been opened before it. -/
structure Expression.Sound (e : Expression) : Prop where
  flags : e.flags = []
  fits : allFit [] false e.items = true

theorem start_of_whole (h : (tokens source).2 = false) :
    Scan.start source = ⟨(tokens source).1, false, 0, 1, [], [], none, [], []⟩ := by
  rw [← h]
  rfl

/-- In the frame, the expression is read as the body of the first group. -/
theorem readItems_framedChars (h : parse source = .ok e) (n : Nat) :
    readItems (n + 4) false true [] (Scan.start (framedChars source)) =
      (readChoice n false false >>= fun body => expectClosing 4 >>= fun _ =>
        closeGroup 1 body >>= fun _ => readItems (n + 1) false true
          [.group (some 1) [] [] body, blanks .possessive]) (framedStart (tokens source).1) := by
  have hframed := tokens_framedChars (whole_of_parse h)
  rw [start_of_whole (by rw [hframed]), hframed]
  exact readItems_frameStart (head_ne_question h) n

/-- **An expression that reads well alone reads well in the frame if it is sound, and only
then.** -/
theorem parse_framedChars (h : parse source = .ok e) :
    (e.Sound → parse (framedChars source) = .ok e.framed) ∧
      (¬ e.Sound → ∃ r, parse (framedChars source) = .error r) := by
  obtain ⟨-, s', hchoice, hended⟩ := parse_ok_iff.1 h
  have hstart := start_of_whole (whole_of_parse h)
  have hbegun : Begun [] false (Scan.start source) (framedStart (tokens source).1) 2
      (4 * source.length + 8) (4 * source.length + 51) := by
    refine ⟨hstart ▸ inside_framedStart _, hstart ▸ rfl, ?_, by omega⟩
    have hle := length_tokens_le source
    rw [hstart]
    show 4 * (tokens source).1.length + 2 ≤ _
    omega
  have hcomes := (beside _).choice hbegun (fun hverbose => absurd hverbose Bool.false_ne_true)
    (fun _ => rfl) hchoice
  have hflags : e.flags = s'.flags := congrArg Expression.flags hended.expression
  have hnext : e.nextGroup = s'.nextGroup := congrArg Expression.nextGroup hended.expression
  have hfuel : 4 * (framedChars source).length + 8 = 4 * source.length + 51 + 4 + 1 := by
    simp [framedChars, charsBefore, charsAfter]
    omega
  have hitems := readItems_framedChars h (4 * source.length + 51)
  constructor
  · intro hsound
    obtain ⟨t₁, hbody, h₁⟩ := hcomes.succeeds ⟨hflags ▸ hsound.flags, hsound.fits⟩
    have hrest₁ : t₁.rest = frameEnd := by rw [h₁.rest, hended.rest, List.nil_append]
    obtain ⟨t₂, hend, hrest₂, hflags₂, hconditions₂, hnext₂⟩ :=
      readItems_frameEnd hrest₁ h₁.whole (renumberedAll e.items) (4 * source.length + 43)
    rw [bind_of_ok hbody] at hitems
    have hrun : readChoice (4 * (framedChars source).length + 8) false true
        (Scan.start (framedChars source)) = .ok (e.framed.items, t₂) := by
      rw [hfuel, readChoice, bind_of_ok (hitems.trans hend),
        bind_of_ok (readAlternatives_of_nil hrest₂ _ _ _), h₁.nextGroup, ← hnext]
      rfl
    have hnone : t₂.flags = [] := by rw [hflags₂, h₁.flags, ← hflags, hsound.flags]
    refine parse_ok_iff.2 ⟨?_, t₂, hrun, hrest₂, ?_, ?_, ?_⟩
    · have hbroken : (Scan.start (framedChars source)).broken = false :=
        congrArg Prod.snd (tokens_framedChars (whole_of_parse h))
      rw [settle_eq, hbroken, Bool.and_false]
      rfl
    · rw [hnone]
      rfl
    · -- A condition is on the same number as alone, and there are more groups.
      refine danglingCondition?_eq_none_iff.2 fun c hc => ?_
      have hmem : c.1 ∈ s'.conditions.map (·.1) := by
        rw [← h₁.conditions, ← hconditions₂]
        exact List.mem_map_of_mem hc
      obtain ⟨c', hc', hsame⟩ := List.mem_map.1 hmem
      have hless := danglingCondition?_eq_none_iff.1 hended.conditions c' hc'
      rw [hnext₂, h₁.nextGroup]
      omega
    · have hwidths : t₂.widths = e.framed.widths := ((known _).choice hrun).2
      rw [hwidths, hnone, ← hsound.flags, hnext₂, h₁.nextGroup, ← hnext]
      rfl
  · intro hbad
    obtain ⟨r, hbody⟩ := hcomes.refuses fun hsound => hbad ⟨hflags.trans hsound.flags, hsound.fits⟩
    rw [bind_of_error hbody] at hitems
    cases hparse : parse (framedChars source) with
    | error r => exact ⟨r, rfl⟩
    | ok e' =>
      obtain ⟨-, s₁, hrun, -⟩ := parse_ok_iff.1 hparse
      rw [hfuel, readChoice, bind_of_error hitems] at hrun
      cases hrun

/-! ## §4. The engine. -/

/-- What an expression is that reads well and has no flaw when it begins a pattern. -/
structure Expression.Begins (e : Expression) : Prop extends e.Sound where
  /-- No lookbehind in it can match texts of different lengths there. -/
  flawless : e.framed.flaw? = none
  /-- No lookbehind in it looks too far there. -/
  carried : anyLooksTooFar e.framed.groupWidth e.framed.items = false

theorem read_ok_iff :
    read source = .ok e ↔
      parse source = .ok e ∧ e.flaw? = none ∧ anyLooksTooFar e.groupWidth e.items = false := by
  unfold read
  cases hparse : parse source with
  | error r => exact ⟨nofun, nofun⟩
  | ok e' =>
    dsimp only
    cases hflaw : e'.flaw? with
    | some cause =>
      refine ⟨nofun, fun h => ?_⟩
      cases h.1
      rw [hflaw] at h
      cases h.2.1
    | none =>
      by_cases hfar : anyLooksTooFar e'.groupWidth e'.items = true
      · simp only [hfar, if_true]
        refine ⟨nofun, fun h => ?_⟩
        cases h.1
        rw [hfar] at h
        cases h.2.2
      · simp only [if_neg hfar]
        refine ⟨fun h => ?_, fun h => h.1⟩
        cases h
        exact ⟨rfl, hflaw, Bool.eq_false_iff.2 hfar⟩

/-- What begins a pattern is read as the expression in it with the frame around, if that can begin
one, and as nothing else. -/
theorem read_beginWith_iff {source : String} {e' : Expression} (h : parse source.toList = .ok e) :
    read (Pattern.beginWith source).toList = .ok e' ↔ e.Begins ∧ e' = e.framed := by
  obtain ⟨hsound, hunsound⟩ := parse_framedChars h
  rw [toList_beginWith, read_ok_iff]
  constructor
  · rintro ⟨hparse, hflaw, hfar⟩
    by_cases hs : e.Sound
    · cases hparse.symm.trans (hsound hs)
      exact ⟨⟨hs, hflaw, hfar⟩, rfl⟩
    · obtain ⟨r, hr⟩ := hunsound hs
      cases hparse.symm.trans hr
  · rintro ⟨hb, rfl⟩
    exact ⟨hsound hb.toSound, hb.flawless, hb.carried⟩

/-- **The engine accepts the expression that begins a pattern just if the expression in it can begin
one.** -/
theorem engine_beginWith_iff {source : String} (h : parse source.toList = .ok e) :
    engine (Pattern.beginWith source) = .accepted ↔ e.Begins := by
  simp only [engine_eq_accepted_iff, read_beginWith_iff h]
  exact ⟨fun ⟨_, hb, _⟩ => hb, fun hb => ⟨_, hb, rfl⟩⟩

end QuasiGrammar.Regex
