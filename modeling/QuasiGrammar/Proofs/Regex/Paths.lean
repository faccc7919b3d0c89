import Mathlib.Data.List.TakeWhile
import QuasiGrammar.Regex.Framed
import QuasiGrammar.Regex.Match

/-
  QuasiGrammar.Proofs.Regex.Paths
  ───────────────────────────────
  **Where literals and repeated characters lead.**

  From a point to another one the characters between them are passed
  (`Point.Passes`).  Literals pass themselves, and a group of literals holds them
  then.  A repetition of single characters passes every run of them that its bounds
  allow (`mem_turns_next`); one that gives nothing back passes the longest run alone
  (`possessive_turns_next`).
-/

namespace QuasiGrammar.Regex

variable {a : Alphabet} {p q : Point} {wanted : Char → Bool}

/-! ## §1. Points. -/

/-- From one point to another some characters are passed. -/
structure Point.Passes (p : Point) (cs : List Char) (q : Point) : Prop where
  after : p.after = cs ++ q.after
  before : q.before = cs.reverse ++ p.before
  groups : q.groups = p.groups

/-- The point after some of the characters that follow; the rest is told too. -/
def Point.past (p : Point) (cs rest : List Char) : Point :=
  { p with before := cs.reverse ++ p.before, after := rest }

theorem Point.passes_past {cs rest : List Char} (h : p.after = cs ++ rest) :
    p.Passes cs (p.past cs rest) := ⟨h, rfl, rfl⟩

namespace Point.Passes

variable {cs ds : List Char}

theorem eq_past (h : p.Passes cs q) : q = p.past cs q.after := by
  obtain ⟨before, after, groups⟩ := q
  obtain ⟨-, hbefore, hgroups⟩ := h
  cases hbefore
  cases hgroups
  rfl

theorem nil_iff : p.Passes [] q ↔ q = p := by
  constructor
  · intro h
    rw [h.eq_past, ← List.nil_append q.after, ← h.after]
    rfl
  · rintro rfl
    exact ⟨rfl, rfl, rfl⟩

theorem eq_self (h : p.Passes [] q) : p = q := (nil_iff.1 h).symm

theorem append_iff : p.Passes (cs ++ ds) q ↔ ∃ r, p.Passes cs r ∧ r.Passes ds q := by
  constructor
  · rintro ⟨hafter, hbefore, hgroups⟩
    rw [List.append_assoc] at hafter
    rw [List.reverse_append, List.append_assoc] at hbefore
    exact ⟨p.past cs (ds ++ q.after), passes_past hafter, rfl, hbefore, hgroups⟩
  · rintro ⟨r, h, h'⟩
    refine ⟨?_, ?_, h'.groups.trans h.groups⟩
    · rw [h.after, h'.after, List.append_assoc]
    · rw [h'.before, h.before, List.reverse_append, List.append_assoc]

theorem cons_iff {c : Char} :
    p.Passes (c :: cs) q ↔ ∃ r, p.Passes [c] r ∧ r.Passes cs q := by
  rw [← List.singleton_append, append_iff]

/-- The characters between the points are those passed. -/
theorem textTo (h : p.Passes cs q) : p.textTo q = cs := by
  rw [Point.textTo, h.before, List.length_append, Nat.add_sub_cancel, List.take_left,
    List.reverse_reverse]

end Point.Passes

theorem next_of_nil (h : p.after = []) : p.next wanted = [] := by
  rw [Point.next, h]

theorem next_of_cons {c : Char} {rest : List Char} (h : p.after = c :: rest) :
    p.next wanted = if wanted c then [p.past [c] rest] else [] := by
  rw [Point.next, h]
  rfl

/-- A single character is passed if it is wanted. -/
theorem mem_next : q ∈ p.next wanted ↔ ∃ c, wanted c = true ∧ p.Passes [c] q := by
  cases hafter : p.after with
  | nil =>
    rw [next_of_nil hafter]
    refine ⟨nofun, fun ⟨c, _, h⟩ => ?_⟩
    cases hafter.symm.trans h.after
  | cons c rest =>
    rw [next_of_cons hafter, List.mem_ite_nil_right, List.mem_singleton]
    constructor
    · rintro ⟨hc, rfl⟩
      exact ⟨c, hc, Point.passes_past hafter⟩
    · rintro ⟨d, hd, h⟩
      obtain ⟨rfl, hrest⟩ := List.cons.inj (hafter.symm.trans h.after)
      exact ⟨hd, hrest ▸ h.eq_past⟩

/-! ## §2. Sequences. -/

theorem allPaths_append (items more : List Item) (flags : List Char) (p : Point) :
    allPaths a (items ++ more) flags p =
      (allPaths a items flags p).flatMap (allPaths a more flags) := by
  induction items generalizing p with
  | nil => simp [allPaths]
  | cons i rest ih =>
    have hrest : allPaths a (rest ++ more) flags =
        fun q => (allPaths a rest flags q).flatMap (allPaths a more flags) := funext ih
    rw [List.cons_append, allPaths, allPaths, List.flatMap_assoc, hrest]

theorem allPaths_singleton (i : Item) (flags : List Char) (p : Point) :
    allPaths a [i] flags p = i.paths a flags p := by
  simp [allPaths]

theorem mem_allPaths_nil {flags : List Char} : q ∈ allPaths a [] flags p ↔ q = p := by
  rw [allPaths, List.mem_singleton]

theorem mem_allPaths_cons {i : Item} {rest : List Item} {flags : List Char} :
    q ∈ allPaths a (i :: rest) flags p ↔
      ∃ r, r ∈ i.paths a flags p ∧ q ∈ allPaths a rest flags r := by
  rw [allPaths, List.mem_flatMap]

/-- The items that stand for characters themselves. -/
def literals (cs : List Char) : List Item := cs.map fun c => .literal c.toNat

@[simp]
theorem literals_nil : literals [] = [] := rfl

@[simp]
theorem literals_cons (c : Char) (cs : List Char) :
    literals (c :: cs) = .literal c.toNat :: literals cs := rfl

theorem paths_literal (c : Char) (p : Point) :
    (Item.literal c.toNat).paths a [] p = p.next (· == c) := by
  have hcode : (fun d => (a.codes [] d).contains c.toNat) = (· == c) := by
    funext d
    show [d.toNat].contains c.toNat = (d == c)
    rw [List.contains_cons, List.contains_nil, Bool.or_false, Bool.eq_iff_iff, beq_iff_eq,
      beq_iff_eq, Char.toNat_inj, eq_comm]
  rw [Item.paths, hcode]

/-- Literals pass themselves. -/
theorem mem_allPaths_literals {cs : List Char} :
    q ∈ allPaths a (literals cs) [] p ↔ p.Passes cs q := by
  induction cs generalizing p with
  | nil => rw [literals_nil, mem_allPaths_nil, Point.Passes.nil_iff]
  | cons c cs ih =>
    simp only [literals_cons, mem_allPaths_cons, paths_literal, mem_next, ih, beq_iff_eq,
      exists_eq_left]
    exact Point.Passes.cons_iff.symm

theorem mem_allPaths_literals_append {cs : List Char} {more : List Item} :
    q ∈ allPaths a (literals cs ++ more) [] p ↔
      ∃ r, p.Passes cs r ∧ q ∈ allPaths a more [] r := by
  simp only [allPaths_append, List.mem_flatMap, mem_allPaths_literals]

/-- A group holds the literals in it. -/
theorem mem_paths_group_literals {index : Nat} {cs : List Char} :
    q ∈ (Item.group (some index) [] [] (literals cs)).paths a [] p ↔
      ∃ r, p.Passes cs r ∧ q = { r with groups := (index, cs) :: r.groups } := by
  rw [Item.paths, List.mem_map]
  constructor
  · rintro ⟨r, hr, rfl⟩
    have hpasses := mem_allPaths_literals.1 hr
    exact ⟨r, hpasses, by rw [Point.hold, hpasses.textTo]⟩
  · rintro ⟨r, hpasses, rfl⟩
    exact ⟨r, mem_allPaths_literals.2 hpasses, by rw [Point.hold, hpasses.textTo]⟩

/-! ## §3. Repeated characters. -/

/-- Exactly so many characters. -/
theorem mem_exactly_next {n : Nat} :
    q ∈ exactly (Point.next wanted) n p ↔
      ∃ cs, cs.length = n ∧ cs.all wanted = true ∧ p.Passes cs q := by
  induction n generalizing p with
  | zero =>
    rw [exactly, List.mem_singleton, ← Point.Passes.nil_iff]
    constructor
    · exact fun h => ⟨[], rfl, rfl, h⟩
    · rintro ⟨cs, hlength, -, h⟩
      exact List.length_eq_zero_iff.1 hlength ▸ h
  | succ n ih =>
    simp only [exactly, List.mem_flatMap, mem_next, ih]
    constructor
    · rintro ⟨r, ⟨c, hc, hr⟩, cs, rfl, hcs, h⟩
      exact ⟨c :: cs, rfl, by rw [List.all_cons, hc, hcs]; rfl, Point.Passes.cons_iff.2 ⟨r, hr, h⟩⟩
    · rintro ⟨_ | ⟨c, cs⟩, hlength, hall, h⟩
      · cases hlength
      · rw [List.all_cons, Bool.and_eq_true] at hall
        obtain ⟨r, hr, h⟩ := Point.Passes.cons_iff.1 h
        exact ⟨r, ⟨c, hall.1, hr⟩, cs, Nat.succ.inj hlength, hall.2, h⟩

/-- A turn of at most so many ends here, or goes on behind one more character. -/
theorem mem_atMost_next_succ {many : Bool} {n : Nat} :
    q ∈ atMost (Point.next wanted) many (n + 1) p ↔
      q = p ∨ ∃ r, r ∈ p.next wanted ∧ q ∈ atMost (Point.next wanted) many n r := by
  have hless : ∀ r, r ∈ p.next wanted → r.after.length < p.after.length := by
    intro r hr
    obtain ⟨c, -, h⟩ := mem_next.1 hr
    rw [h.after]
    exact Nat.lt_succ_self _
  have hmore : ∀ r, (r ∈ p.next wanted ∧
      q ∈ if r.after.length < p.after.length then atMost (Point.next wanted) many n r else [r]) ↔
        r ∈ p.next wanted ∧ q ∈ atMost (Point.next wanted) many n r := by
    intro r
    refine and_congr_right fun hr => ?_
    rw [if_pos (hless r hr)]
  rw [atMost]
  cases many with
  | true =>
    simp only [if_true, List.mem_append, List.mem_flatMap, List.mem_singleton, hmore]
    exact or_comm
  | false => simp only [Bool.false_eq_true, if_false, List.mem_cons, List.mem_flatMap, hmore]

/-- At most so many characters. -/
theorem mem_atMost_next {many : Bool} {n : Nat} :
    q ∈ atMost (Point.next wanted) many n p ↔
      ∃ cs, cs.length ≤ n ∧ cs.all wanted = true ∧ p.Passes cs q := by
  induction n generalizing p with
  | zero =>
    simp only [Nat.le_zero]
    exact mem_exactly_next (n := 0)
  | succ n ih =>
    simp only [mem_atMost_next_succ, mem_next, ih]
    constructor
    · rintro (h | ⟨r, ⟨c, hc, hr⟩, cs, hlength, hcs, h⟩)
      · exact ⟨[], Nat.zero_le _, rfl, Point.Passes.nil_iff.2 h⟩
      · exact ⟨c :: cs, Nat.succ_le_succ hlength, by rw [List.all_cons, hc, hcs]; rfl,
          Point.Passes.cons_iff.2 ⟨r, hr, h⟩⟩
    · rintro ⟨_ | ⟨c, cs⟩, hlength, hall, h⟩
      · exact .inl (Point.Passes.nil_iff.1 h)
      · rw [List.all_cons, Bool.and_eq_true] at hall
        obtain ⟨r, hr, h⟩ := Point.Passes.cons_iff.1 h
        exact .inr ⟨r, ⟨c, hall.1, hr⟩, cs, Nat.le_of_succ_le_succ hlength, hall.2, h⟩

/-- A number of characters within bounds. -/
theorem mem_turns_next {many : Bool} {low : Nat} {high : Option Nat} :
    q ∈ turns (Point.next wanted) many low high p ↔
      ∃ cs, (low ≤ cs.length ∧ ∀ n ∈ high, cs.length ≤ max low n) ∧ cs.all wanted = true ∧
        p.Passes cs q := by
  rw [turns]
  simp only [List.mem_flatMap, mem_exactly_next, mem_atMost_next]
  -- The first characters are those that there must be, and the others are as many as there may be.
  constructor
  · rintro ⟨r, ⟨cs, rfl, hcs, hr⟩, ds, hlength, hds, h⟩
    refine ⟨cs ++ ds, ⟨?_, fun n hn => ?_⟩, by rw [List.all_append, hcs, hds]; rfl,
      Point.Passes.append_iff.2 ⟨r, hr, h⟩⟩
    · rw [List.length_append]
      exact Nat.le_add_right _ _
    · rw [Option.mem_def.1 hn, Option.map_some, Option.getD_some] at hlength
      rw [List.length_append]
      omega
  · rintro ⟨cs, ⟨hlow, hhigh⟩, hall, h⟩
    rw [← List.take_append_drop low cs] at h hall
    rw [List.all_append, Bool.and_eq_true] at hall
    obtain ⟨r, hr, h⟩ := Point.Passes.append_iff.1 h
    refine ⟨r, ⟨cs.take low, List.length_take_of_le hlow, hall.1, hr⟩, cs.drop low, ?_, hall.2, h⟩
    cases high with
    | none =>
      rw [h.after, List.length_append]
      show _ ≤ _ + 1
      omega
    | some n =>
      have hle := hhigh n rfl
      rw [List.length_drop]
      show _ ≤ n - low
      omega

/-- The longest run comes first. -/
theorem head?_atMost_next {n : Nat} (hn : p.after.length ≤ n) :
    (atMost (Point.next wanted) true n p).head? =
      some (p.past (p.after.takeWhile wanted) (p.after.dropWhile wanted)) := by
  induction n generalizing p with
  | zero =>
    have hnil : p.after = [] ++ [] := List.length_eq_zero_iff.1 (Nat.le_zero.1 hn)
    rw [hnil, atMost]
    exact congrArg some (Point.passes_past hnil).eq_self
  | succ n ih =>
    rw [atMost, if_pos rfl]
    cases hafter : p.after with
    | nil =>
      rw [next_of_nil hafter]
      exact congrArg some (Point.passes_past hafter).eq_self
    | cons c rest =>
      rw [next_of_cons hafter]
      by_cases hc : wanted c = true
      · have hless : (p.past [c] rest).after.length < (c :: rest).length := Nat.lt_succ_self _
        have hle : (p.past [c] rest).after.length ≤ n := by
          rw [hafter] at hn
          exact Nat.le_of_succ_le_succ hn
        have hpast : (p.past [c] rest).past (rest.takeWhile wanted) (rest.dropWhile wanted) =
            p.past (c :: rest.takeWhile wanted) (rest.dropWhile wanted) := by
          simp only [Point.past, List.reverse_cons, List.append_assoc]
          rfl
        rw [if_pos hc, List.flatMap_singleton, if_pos hless, List.head?_append, ih hle,
          List.takeWhile_cons_of_pos hc, List.dropWhile_cons_of_pos hc, ← hpast]
        rfl
      · rw [if_neg hc, List.takeWhile_cons_of_neg hc, List.dropWhile_cons_of_neg hc]
        exact congrArg some (Point.passes_past hafter).eq_self

/-- What takes all characters of the run and gives none back leads to its end. -/
theorem possessive_turns_next (p : Point) :
    Greed.turns (Point.next wanted) 0 none p .possessive =
      [p.past (p.after.takeWhile wanted) (p.after.dropWhile wanted)] := by
  show ([p].flatMap fun q => atMost (Point.next wanted) true (q.after.length + 1) q).take 1 = _
  rw [List.flatMap_singleton, List.take_one, head?_atMost_next (Nat.le_succ _)]
  rfl

/-! ## §4. Blanks. -/

/-- Whether a character is a blank. -/
def Alphabet.isBlank (a : Alphabet) : Char → Bool := a.isIn .space

theorem paths_blanks (greed : Greed) (p : Point) :
    (blanks greed).paths a [] p = greed.turns (Point.next a.isBlank) 0 none p := by
  have hstep : allPaths a [.set false [.cls .space false]] [] = Point.next a.isBlank := by
    funext q
    rw [allPaths_singleton, Item.paths]
    refine congrArg (Point.next · q) (funext fun c => ?_)
    simp [Member.has, Alphabet.isOf, Alphabet.isBlank]
  rw [blanks, Item.paths, hstep]

/-- Blanks that are given back pass some of those that there are. -/
theorem mem_paths_blanks :
    q ∈ (blanks .greedy).paths a [] p ↔ ∃ w : List Char, w.all a.isBlank = true ∧ p.Passes w q := by
  rw [paths_blanks, Greed.turns, mem_turns_next]
  simp

/-- Blanks that are not given back pass all that there are. -/
theorem paths_blanks_possessive (p : Point) :
    (blanks .possessive).paths a [] p =
      [p.past (p.after.takeWhile a.isBlank) (p.after.dropWhile a.isBlank)] := by
  rw [paths_blanks, possessive_turns_next]

/-! ## §5. Matches. -/

theorem isSome_match?_iff {e : Expression} {text : List Char} :
    (e.match? a text).isSome = true ↔ ∃ q, q ∈ e.paths a text := by
  rw [Expression.match?, List.isSome_head?]
  exact ⟨List.exists_mem_of_ne_nil _, fun ⟨_, h⟩ => List.ne_nil_of_mem h⟩

theorem mem_of_match? {e : Expression} {text : List Char} (h : e.match? a text = some q) :
    q ∈ e.paths a text := List.mem_of_head? h

end QuasiGrammar.Regex
