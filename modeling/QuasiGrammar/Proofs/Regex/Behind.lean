import QuasiGrammar.Proofs.Regex.Paths

/-
  QuasiGrammar.Proofs.Regex.Behind
  ────────────────────────────────
  **A lookbehind asks what the characters before a point end with.**

  A look leaves the reader where it stands.  What a lookbehind looks for may be of
  several lengths: it goes back by any number of characters, and holds if a way from
  there ends at the point (`Point.Follows`).  If the ways of its items are known by
  the characters that they pass, it is a condition on the last characters before the
  point (`follows_iff`).

  Matches may begin anywhere; `mem_ends` says where they end.
-/

namespace QuasiGrammar.Regex

variable {a : Alphabet} {p q : Point} {flags : List Char} {body : List Item}

/-! ## §1. Single items. -/

/-- A set of one character that is turned round passes every other one. -/
theorem mem_paths_except {c : Char} :
    q ∈ (Item.set true [.single c.toNat]).paths a [] p ↔ ∃ d, d ≠ c ∧ p.Passes [d] q := by
  rw [Item.paths, mem_next]
  refine exists_congr fun d => and_congr_left fun _ => ?_
  have hhas : [Member.single c.toNat].any (·.has a [] d) = (c == d) := by
    show ((c.toNat == d.toNat || false) || false) = _
    rw [Bool.or_false, Bool.or_false, Bool.eq_iff_iff, beq_iff_eq, beq_iff_eq, Char.toNat_inj]
  rw [hhas, bne_iff_ne, ne_eq, beq_iff_eq]
  exact ne_comm

/-- In a text of one line, the line begins where nothing is before. -/
theorem mem_paths_lineStart :
    q ∈ (Item.anchor .lineStart).paths a [] p ↔ p.before = [] ∧ q = p := by
  rw [Item.paths, List.mem_ite_nil_right, List.mem_singleton]
  simp [Anchor.holds]

theorem mem_eachPaths {alternatives : List (List Item)} :
    q ∈ eachPaths a alternatives flags p ↔ ∃ s ∈ alternatives, q ∈ allPaths a s flags p := by
  induction alternatives with
  | nil => simp [eachPaths]
  | cons s rest ih => simp [eachPaths, ih]

/-! ## §2. Lookbehinds. -/

/-- The characters before a point end with some that the items match. -/
def Point.Follows (a : Alphabet) (flags : List Char) (body : List Item) (p : Point) : Prop :=
  ∃ count ≤ p.before.length, ∃ q ∈ allPaths a body flags (p.back count),
    q.after.length = p.after.length

/-- What a look finds may set groups and nothing else. -/
theorem mem_afterLook {seen : List Point} :
    q ∈ p.afterLook false seen ↔ ∃ r ∈ seen.head?, q = { p with groups := r.groups } := by
  cases seen with
  | nil => simp [Point.afterLook]
  | cons r rest => simp [Point.afterLook]

/-- All that a lookbehind finds. -/
theorem mem_seen :
    q ∈ ((List.range (p.before.length + 1)).flatMap fun count =>
        (allPaths a body flags (p.back count)).filter (·.after.length = p.after.length)) ↔
      ∃ count ≤ p.before.length, q ∈ allPaths a body flags (p.back count) ∧
        q.after.length = p.after.length := by
  simp only [List.mem_flatMap, List.mem_range, Nat.lt_succ_iff, List.mem_filter, decide_eq_true_eq]

/-- A lookbehind stays where it is, if the characters before it end with what it looks for. -/
theorem mem_paths_lookbehind (h : q ∈ (Item.look false false body).paths a flags p) :
    p.Follows a flags body ∧ q.before = p.before ∧ q.after = p.after := by
  rw [Item.paths, mem_afterLook] at h
  obtain ⟨r, hr, rfl⟩ := h
  obtain ⟨count, hcount, hpath, hend⟩ := mem_seen.1 (List.mem_of_mem_head? hr)
  exact ⟨⟨count, hcount, r, hpath, hend⟩, rfl, rfl⟩

theorem exists_mem_paths_lookbehind (h : p.Follows a flags body) :
    ∃ q ∈ (Item.look false false body).paths a flags p,
      q.before = p.before ∧ q.after = p.after := by
  obtain ⟨count, hcount, r, hpath, hend⟩ := h
  have hmem := mem_seen.2 ⟨count, hcount, hpath, hend⟩
  obtain ⟨first, hfirst⟩ := Option.isSome_iff_exists.1
    (List.isSome_head?.2 (List.ne_nil_of_mem hmem))
  refine ⟨{ p with groups := first.groups }, ?_, rfl, rfl⟩
  rw [Item.paths, mem_afterLook]
  exact ⟨first, hfirst, rfl⟩

/-- If the ways of the items pass the characters `cs` that `Passed before cs` tells, from what is
before them, a lookbehind for them is a condition on the characters before the point. -/
theorem follows_iff {Passed : List Char → List Char → Prop}
    (hpassed : ∀ r q, q ∈ allPaths a body flags r ↔ ∃ cs, Passed r.before cs ∧ r.Passes cs q) :
    p.Follows a flags body ↔ ∃ before cs, p.before = cs.reverse ++ before ∧ Passed before cs := by
  constructor
  · rintro ⟨count, hcount, q, hq, hend⟩
    obtain ⟨cs, hcs, hpasses⟩ := (hpassed _ _).1 hq
    -- What is passed from there are the last characters before the point.
    have hafter : (p.before.take count).reverse ++ p.after = cs ++ q.after := hpasses.after
    have hlast : (p.before.take count).reverse = cs := (List.append_inj' hafter hend.symm).1
    refine ⟨p.before.drop count, cs, ?_, hcs⟩
    rw [← hlast, List.reverse_reverse, List.take_append_drop]
  · rintro ⟨before, cs, hbefore, hcs⟩
    have hlength : cs.length = cs.reverse.length := List.length_reverse.symm
    have hback : p.back cs.length = { p with before := before, after := cs ++ p.after } := by
      rw [Point.back, hbefore, hlength, List.drop_left, List.take_left, List.reverse_reverse]
    refine ⟨cs.length, ?_, p, ?_, rfl⟩
    · rw [hbefore, List.length_append]
      omega
    · rw [hback, hpassed]
      exact ⟨cs, hcs, rfl, hbefore, rfl⟩

/-! ## §3. Ends of matches. -/

/-- Where the matches end that begin anywhere in a text. -/
theorem mem_ends {e : Expression} {text : List Char} {n : Nat} :
    n ∈ e.ends a text ↔ ∃ before after, text = before ++ after ∧
      ∃ q ∈ allPaths a e.items e.flags ⟨before.reverse, after, []⟩, q.before.length = n := by
  simp only [Expression.ends, List.mem_flatMap, List.mem_range, List.mem_map]
  constructor
  · rintro ⟨start, -, q, hq, hn⟩
    exact ⟨text.take start, text.drop start, (List.take_append_drop _ _).symm, q, hq, hn⟩
  · rintro ⟨before, after, rfl, q, hq, hn⟩
    refine ⟨before.length, ?_, q, ?_, hn⟩
    · rw [List.length_append]
      omega
    · rw [List.take_left, List.drop_left]
      exact hq

end QuasiGrammar.Regex
