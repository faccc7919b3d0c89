import QuasiGrammar.Proofs.Regex.Advance

/-
  QuasiGrammar.Proofs.Regex.Inside
  ────────────────────────────────
  **An expression is read inside the frame as it is read alone, but for numbers
  and flags.**

  Two readers go side by side: one reads the expression alone, the other reads
  it where a group has been opened before it (`Inside`).  Where the first one
  succeeds, the second one succeeds with the same items under new numbers, or it
  refuses: a number that tells an open group now, or flags of the whole
  expression, which come too late (`Comes`).
-/

namespace QuasiGrammar.Regex

open Number Text

variable {α β γ : Type} {s s' s'' t t' : Scan} {enclosing : List Nat} {behind : Bool}

/-! ## §1. Side by side. -/

/-- The second reader stands inside the frame where the first one stands in the expression alone.
Given are the open groups, and whether it is in a lookbehind. -/
structure Inside (enclosing : List Nat) (behind : Bool) (s t : Scan) : Prop extends
    Extends s t where
  nextGroup : t.nextGroup = s.nextGroup + 1
  positive : 0 < s.nextGroup
  names : t.names = s.names.map fun p => (p.1, p.2 + 1)
  widths : ∀ i, (t.widths.lookup (i + 1)).isSome = (s.widths.lookup i).isSome
  closed : ∀ i, (s.widths.lookup i).isSome = true ↔ 0 < i ∧ i < s.nextGroup ∧ i ∉ enclosing
  bound : ∀ i ∈ enclosing, i < s.nextGroup
  lookbehind : t.lookbehind = s.lookbehind.map (· + 1)
  behind : s.lookbehind.isSome = behind
  conditions : t.conditions.map (·.1) = s.conditions.map (·.1)
  flags : t.flags = s.flags

/-- They move in the same way. -/
theorem Inside.moved (h : Inside enclosing behind s t) (hs : Moved s s') (ht : Moved t t')
    (hext : Extends s' t') : Inside enclosing behind s' t' := by
  have hs := hs.same
  have ht := ht.same
  rw [hs, ht]
  exact ⟨⟨hext.rest, h.whole⟩, h.nextGroup, h.positive, h.names, h.widths, h.closed, h.bound,
    h.lookbehind, h.behind, h.conditions, h.flags⟩

/-- What the second reader comes to: if all is in order, a result and a place beside the first
reader; else it refuses. -/
structure Comes (enclosing : List Nat) (behind : Bool) (good : Prop) (s' : Scan) (b : β)
    (result : Except Refused (β × Scan)) : Prop where
  succeeds : good → ∃ t', result = .ok (b, t') ∧ Inside enclosing behind s' t'
  refuses : ¬ good → ∃ r, result = .error r

namespace Comes

variable {good good' : Prop} {b : β} {c : γ} {result : Except Refused (β × Scan)}

theorem ok (h : Inside enclosing behind s' t') (hgood : good) :
    Comes enclosing behind good s' b (.ok (b, t')) :=
  ⟨fun _ => ⟨t', rfl, h⟩, fun hbad => absurd hgood hbad⟩

theorem error (r : Refused) (hbad : ¬ good) :
    Comes enclosing behind good s' b (.error r) :=
  ⟨fun hgood => absurd hgood hbad, fun _ => ⟨r, rfl⟩⟩

theorem of_fails {n : Read β} (h : Fails n) (hbad : ¬ good) :
    Comes enclosing behind good s' b (n t) :=
  ⟨fun hgood => absurd hgood hbad, fun _ => h t⟩

/-- If all is in order in the end, it was in order before. -/
theorem bind {around : List Nat} {within : Bool} {n : Read β} {g : β → Read γ}
    (h : Comes around within good s' b (n t)) (hbefore : good' → good)
    (hnext : ∀ t', Inside around within s' t' → good →
      Comes enclosing behind good' s'' c (g b t')) :
    Comes enclosing behind good' s'' c ((n >>= g) t) := by
  by_cases hgood : good
  · obtain ⟨t', hn, hinside⟩ := h.succeeds hgood
    rw [bind_of_ok hn]
    exact hnext t' hinside hgood
  · obtain ⟨r, hn⟩ := h.refuses hgood
    rw [bind_of_error hn]
    exact .error r fun hgood' => hgood (hbefore hgood')

theorem congr (h : Comes enclosing behind good s' b result) (hiff : good' ↔ good) :
    Comes enclosing behind good' s' b result :=
  ⟨fun hgood => h.succeeds (hiff.1 hgood), fun hbad => h.refuses (mt hiff.2 hbad)⟩

end Comes

/-- What reads the same in a longer text reads the same inside the frame. -/
theorem Inside.follow (h : Inside enclosing behind s t) {m n : Read α} {a : α}
    (hagree : Agree s t m n) (hm : m s = .ok (a, s')) :
    Comes enclosing behind True s' a (n t) := by
  obtain ⟨hmoved, t', hn, hmoved', hext⟩ := hagree a s' hm
  rw [hn]
  exact .ok (h.moved hmoved hmoved' hext) trivial

/-- Where the first reader succeeds, the second one comes to what becomes of the result. -/
def Mirrors (enclosing : List Nat) (behind : Bool) (good : α → Prop) (image : α → β) (s t : Scan)
    (m : Read α) (n : Read β) : Prop :=
  ∀ a s', m s = .ok (a, s') → Comes enclosing behind (good a) s' (image a) (n t)

namespace Mirrors

variable {good : α → Prop} {image : α → β} {m m' : Read α} {n n' : Read β}

theorem pure (h : Inside enclosing behind s t) {a : α} (hgood : good a) :
    Mirrors enclosing behind good image s t (Pure.pure a) (Pure.pure (image a)) := by
  intro b s' hb
  cases hb
  exact .ok h hgood

theorem of_fails (h : Fails m) : Mirrors enclosing behind good image s t m n := by
  intro a s' ha
  obtain ⟨r, hr⟩ := h s
  rw [hr] at ha
  cases ha

theorem ite {c : Prop} [Decidable c] (h : c → Mirrors enclosing behind good image s t m n)
    (h' : ¬ c → Mirrors enclosing behind good image s t m' n') :
    Mirrors enclosing behind good image s t (if c then m else m') (if c then n else n') := by
  by_cases hc : c
  · rw [if_pos hc, if_pos hc]
    exact h hc
  · rw [if_neg hc, if_neg hc]
    exact h' hc

theorem get {f : Scan → Read α} {g : Scan → Read β}
    (h : Mirrors enclosing behind good image s t (f s) (g t)) :
    Mirrors enclosing behind good image s t (MonadState.get >>= f) (MonadState.get >>= g) := h

theorem bind_image {δ ζ : Type} {k : Read δ} {l : Read ζ} {f : δ → Read α} {g : ζ → Read β}
    {imageFirst : δ → ζ} (h : Mirrors enclosing behind (fun _ => True) imageFirst s t k l)
    (hnext : ∀ d s' t', Inside enclosing behind s' t' →
      Mirrors enclosing behind good image s' t' (f d) (g (imageFirst d))) :
    Mirrors enclosing behind good image s t (k >>= f) (l >>= g) := by
  intro a s₂ ha
  obtain ⟨d, s₁, h₁, h₂⟩ := exists_of_bind_ok ha
  exact (h d s₁ h₁).bind (fun _ => trivial) fun t' hinside _ => hnext d s₁ t' hinside a s₂ h₂

theorem of_agree (h : Inside enclosing behind s t) {k l : Read α} (hagree : Agree s t k l) :
    Mirrors enclosing behind (fun _ => True) id s t k l :=
  fun _ _ ha => h.follow hagree ha

theorem bind {δ : Type} (h : Inside enclosing behind s t) {k l : Read δ} {f : δ → Read α}
    {g : δ → Read β} (hagree : Agree s t k l)
    (hnext : ∀ d s' t', Inside enclosing behind s' t' →
      Mirrors enclosing behind good image s' t' (f d) (g d)) :
    Mirrors enclosing behind good image s t (k >>= f) (l >>= g) :=
  (of_agree h hagree).bind_image hnext

theorem take {f : Option Token → Read α} {g : Option Token → Read β}
    (h : Inside enclosing behind s t) (hnone : Fails (f none))
    (hsome : ∀ u s' t', Inside enclosing behind s' t' →
      Mirrors enclosing behind good image s' t' (f (some u)) (g (some u))) :
    Mirrors enclosing behind good image s t (Regex.take >>= f) (Regex.take >>= g) := by
  intro a s' ha
  cases hrest : s.rest with
  | nil =>
    rw [bind_of_ok (take_nil hrest)] at ha
    exact of_fails hnone a s' ha
  | cons u more =>
    have hrest' : t.rest = u :: (more ++ frameEnd) := by rw [h.rest, hrest, List.cons_append]
    have hone : 1 ≤ s.rest.length := by simp [hrest]
    rw [take_bind_cons f hrest] at ha
    rw [take_bind_cons g hrest']
    exact bind h (.skip h.toExtends hone) (fun _ s' t' h => hsome u s' t' h) a s' ha

end Mirrors

/-! ## §2. Groups that are told. -/

theorem tellsClosed_iff {index : Nat} :
    tellsClosed enclosing index = true ↔ 0 < index - 1 ∧ index - 1 ∉ enclosing := by
  rw [tellsClosed, Bool.not_eq_true', List.contains_eq_mem, decide_eq_false_iff_not,
    List.mem_cons, not_or, Nat.pos_iff_ne_zero]

/-- A number that tells a closed group tells a closed one inside the frame if it does so there. -/
theorem Inside.lookup_number (h : Inside enclosing behind s t) {index : Nat}
    (hclosed : (s.widths.lookup index).isSome = true) :
    (t.widths.lookup index).isSome = tellsClosed enclosing index := by
  obtain ⟨hpositive, hless, -⟩ := (h.closed index).1 hclosed
  obtain ⟨i, rfl⟩ : ∃ i, index = i + 1 := ⟨index - 1, by omega⟩
  rw [h.widths i, Bool.eq_iff_iff, h.closed i, tellsClosed_iff, Nat.add_sub_cancel]
  constructor
  · rintro ⟨hi, -, hout⟩
    exact ⟨hi, hout⟩
  · rintro ⟨hi, hout⟩
    exact ⟨hi, by omega, hout⟩

/-- In a lookbehind only groups can be told that are closed and were opened before it. -/
theorem checkLookbehind_ok_iff {index : Nat} {u : Unit} :
    checkLookbehind index s = .ok (u, s') ↔
      s' = s ∧ ∀ first, s.lookbehind = some first →
        (s.widths.lookup index).isSome = true ∧ index < first := by
  unfold checkLookbehind
  rw [get_bind]
  cases hfirst : s.lookbehind with
  | none =>
    simp only
    refine ⟨fun h => ?_, fun h => ?_⟩
    · cases h
      exact ⟨rfl, nofun⟩
    · rw [h.1]
      rfl
  | some first =>
    simp only [Option.some.injEq, forall_eq']
    by_cases hopen : (s.widths.lookup index).isNone = true
    · rw [if_pos hopen]
      refine ⟨nofun, fun h => ?_⟩
      rw [Option.isNone_iff_eq_none] at hopen
      simp [hopen] at h
    · rw [if_neg hopen]
      have hclosed : (s.widths.lookup index).isSome = true := by simpa using hopen
      by_cases hge : index ≥ first
      · rw [if_pos hge]
        refine ⟨nofun, fun h => ?_⟩
        omega
      · rw [if_neg hge]
        refine ⟨fun h => ?_, fun h => ?_⟩
        · cases h
          exact ⟨rfl, hclosed, by omega⟩
        · rw [h.1]
          rfl

theorem exists_error {m : Read α} (h : ∀ a s', m s ≠ .ok (a, s')) : ∃ r, m s = .error r := by
  cases hm : m s with
  | error r => exact ⟨r, rfl⟩
  | ok p => exact absurd hm (h p.1 p.2)

/-- A group that can be told by its number alone can be told by its new number inside the frame. -/
theorem Inside.checkLookbehind_succ (h : Inside enclosing behind s t) {index : Nat} {u : Unit}
    (hs : checkLookbehind index s = .ok (u, s')) :
    s' = s ∧ checkLookbehind (index + 1) t = .ok ((), t) := by
  obtain ⟨rfl, hcan⟩ := checkLookbehind_ok_iff.1 hs
  refine ⟨rfl, checkLookbehind_ok_iff.2 ⟨rfl, fun first hfirst => ?_⟩⟩
  rw [h.lookbehind, Option.map_eq_some_iff] at hfirst
  obtain ⟨first', hfirst', rfl⟩ := hfirst
  obtain ⟨hclosed, hless⟩ := hcan first' hfirst'
  exact ⟨(h.widths index).trans hclosed, by omega⟩

/-- A number that can be told alone can be told inside the frame if it tells a closed group there,
or stands in no lookbehind. -/
theorem Inside.checkLookbehind_number (h : Inside enclosing behind s t) {index : Nat} {u : Unit}
    (hs : checkLookbehind index s = .ok (u, s')) :
    s' = s ∧ Comes enclosing behind (behind = true → tellsClosed enclosing index = true) s ()
      (checkLookbehind index t) := by
  obtain ⟨rfl, hcan⟩ := checkLookbehind_ok_iff.1 hs
  refine ⟨rfl, fun hgood => ?_, fun hbad => exists_error fun a t' hok => hbad fun hbehind => ?_⟩
  · refine ⟨t, checkLookbehind_ok_iff.2 ⟨rfl, fun first hfirst => ?_⟩, h⟩
    rw [h.lookbehind, Option.map_eq_some_iff] at hfirst
    obtain ⟨first', hfirst', rfl⟩ := hfirst
    obtain ⟨hclosed, hless⟩ := hcan first' hfirst'
    have hbehind : behind = true := by rw [← h.behind, hfirst', Option.isSome_some]
    exact ⟨(h.lookup_number hclosed).trans (hgood hbehind), by omega⟩
  · have hsome := h.behind.trans hbehind
    obtain ⟨first, hfirst⟩ := Option.isSome_iff_exists.1 hsome
    obtain ⟨hclosed, -⟩ := hcan first hfirst
    have hfirst' : t.lookbehind = some (first + 1) := by rw [h.lookbehind, hfirst, Option.map_some]
    rw [← h.lookup_number hclosed]
    exact ((checkLookbehind_ok_iff.1 hok).2 (first + 1) hfirst').1

/-! ## §3. References. -/

theorem groupReference_ok_iff {ds : List Char} {i : Item} :
    groupReference ds s = .ok (i, s') ↔
      i = .reference (ofDigits 10 ds) false ∧ ofDigits 10 ds < s.nextGroup ∧
        (s.widths.lookup (ofDigits 10 ds)).isSome = true ∧
        checkLookbehind (ofDigits 10 ds) s = .ok ((), s') := by
  unfold groupReference
  rw [get_bind]
  by_cases hless : ofDigits 10 ds < s.nextGroup
  · by_cases hopen : (s.widths.lookup (ofDigits 10 ds)).isNone = true
    · rw [if_pos hless, if_pos hopen]
      refine ⟨nofun, fun h => ?_⟩
      rw [Option.isNone_iff_eq_none] at hopen
      simp [hopen] at h
    · rw [if_pos hless, if_neg hopen]
      have hclosed : (s.widths.lookup (ofDigits 10 ds)).isSome = true := by simpa using hopen
      constructor
      · intro h
        obtain ⟨_, s₁, hcheck, h⟩ := exists_of_bind_ok h
        cases h
        exact ⟨rfl, hless, hclosed, hcheck⟩
      · rintro ⟨rfl, -, -, hcheck⟩
        rw [bind_of_ok hcheck]
        rfl
  · rw [if_neg hless]
    exact ⟨nofun, fun h => absurd h.2.1 hless⟩

theorem mirrors_groupReference (h : Inside enclosing behind s t) (ds : List Char) :
    Mirrors enclosing behind (fun i => i.fits enclosing behind = true) Item.renumbered s t
      (groupReference ds) (groupReference ds) := by
  intro i s' hi
  obtain ⟨rfl, hless, hclosed, hcheck⟩ := groupReference_ok_iff.1 hi
  obtain ⟨rfl, hcomes⟩ := h.checkLookbehind_number hcheck
  have hlookup := h.lookup_number hclosed
  constructor
  · intro hgood
    have htells : tellsClosed enclosing (ofDigits 10 ds) = true := hgood
    obtain ⟨t', hcheck', hinside⟩ := hcomes.succeeds fun _ => htells
    have hless' : ofDigits 10 ds < t.nextGroup := by
      rw [h.nextGroup]
      omega
    exact ⟨t', groupReference_ok_iff.2 ⟨rfl, hless', hlookup.trans htells, hcheck'⟩, hinside⟩
  · intro hbad
    refine exists_error fun i' t' hok => hbad ?_
    show tellsClosed enclosing (ofDigits 10 ds) = true
    rw [← hlookup]
    exact (groupReference_ok_iff.1 hok).2.2.1

theorem mirrors_digitEscape (h : Inside enclosing behind s t) (c : Char) :
    Mirrors enclosing behind (fun i => i.fits enclosing behind = true) Item.renumbered s t
      (digitEscape c) (digitEscape c) := by
  have hoct : ∀ {s t} (_ : Inside enclosing behind s t) (limit : Nat),
      Agree s t (takeKind limit isOctDigit) (takeKind limit isOctDigit) :=
    fun h _ => .takeKind h.toExtends (by decide) rfl
  have hcode : ∀ {s t} (_ : Inside enclosing behind s t) (ds : List Char),
      Mirrors enclosing behind (fun i => i.fits enclosing behind = true) Item.renumbered s t
        (octalEscape ds >>= fun n => pure (.literal n))
        (octalEscape ds >>= fun n => pure (.literal n)) :=
    fun h ds => .bind h (.octalEscape h.toExtends ds) fun _ _ _ h => .pure h rfl
  unfold digitEscape
  refine .ite (fun _ => .bind h (hoct h 2) fun ds _ _ h => hcode h _) fun _ => ?_
  refine .bind h (.takeKind h.toExtends (by decide) rfl) fun ds s₁ t₁ h => ?_
  cases ds with
  | nil => exact mirrors_groupReference h _
  | cons d ds =>
    refine .ite (fun _ => ?_) fun _ => mirrors_groupReference h _
    refine .bind h (hoct h 1) fun third s₂ t₂ h => ?_
    cases third with
    | nil => exact mirrors_groupReference h _
    | cons d third => exact hcode h _

theorem mirrors_itemEscape (h : Inside enclosing behind s t) (c : Char) :
    Mirrors enclosing behind (fun i => i.fits enclosing behind = true) Item.renumbered s t
      (itemEscape c) (itemEscape c) := by
  unfold itemEscape
  cases anchorEscape? c with
  | some a => exact .pure h rfl
  | none =>
    cases classEscape? c with
    | some m => exact .pure h rfl
    | none =>
      cases controlEscape? c with
      | some n => exact .pure h rfl
      | none =>
        cases hcode : codeEscape? c with
        | some code =>
          exact .bind h (.codeEscape h.toExtends hcode) fun _ _ _ h => .pure h rfl
        | none =>
          refine .ite (fun _ => mirrors_digitEscape h c) fun _ => ?_
          exact .bind h (.plainEscape h.toExtends c) fun _ _ _ h => .pure h rfl

theorem lookup_map (names : List (List Char × Nat)) (name : List Char) :
    (names.map fun p => (p.1, p.2 + 1)).lookup name = (names.lookup name).map (· + 1) := by
  induction names with
  | nil => rfl
  | cons p rest ih =>
    obtain ⟨k, i⟩ := p
    simp only [List.map_cons, List.lookup_cons, ih]
    split <;> rfl

theorem mirrors_groupNamed (h : Inside enclosing behind s t) (name : List Char) :
    Mirrors enclosing behind (fun _ => True) (· + 1) s t (groupNamed name) (groupNamed name) := by
  intro index s' hindex
  unfold groupNamed at hindex ⊢
  rw [get_bind] at hindex ⊢
  rw [h.names, lookup_map]
  cases hlookup : s.names.lookup name with
  | none =>
    simp only [hlookup] at hindex
    cases hindex
  | some index' =>
    simp only [hlookup] at hindex
    cases hindex
    exact .ok h trivial

theorem mirrors_namedReference (h : Inside enclosing behind s t) :
    Mirrors enclosing behind (fun _ => True) (· + 1) s t namedReference namedReference := by
  unfold namedReference
  refine .bind h (.takeName h.toExtends _ _) fun name _ _ h => ?_
  refine .bind h (.checkName h.toExtends name) fun _ _ _ h => ?_
  refine (mirrors_groupNamed h name).bind_image fun index s t h => ?_
  intro index' s' hindex
  rw [get_bind] at hindex ⊢
  have hwidths := h.widths index
  by_cases hopen : (s.widths.lookup index).isNone = true
  · rw [if_pos hopen] at hindex
    cases hindex
  · have hopen' : ¬ (t.widths.lookup (index + 1)).isNone = true := by
      rw [← Option.not_isSome, hwidths, Option.not_isSome]
      exact hopen
    rw [if_neg hopen] at hindex
    rw [if_neg hopen']
    obtain ⟨_, s₁, hcheck, hindex⟩ := exists_of_bind_ok hindex
    cases hindex
    obtain ⟨rfl, hcheck'⟩ := h.checkLookbehind_succ hcheck
    rw [bind_of_ok hcheck']
    exact .ok h trivial

/-- A group that a condition tells, inside the frame. -/
def tellsInside (p : Nat × Bool) : Nat × Bool := (if p.2 then p.1 + 1 else p.1, p.2)

theorem isSome_lookup_cons {γ : Type} (index k : Nat) (v : γ) (table : List (Nat × γ)) :
    (((k, v) :: table).lookup index).isSome = (index == k || (table.lookup index).isSome) := by
  rw [List.lookup_cons]
  cases index == k <;> rfl

theorem isSome_lookup {γ : Type} (table : List (Nat × γ)) (index : Nat) :
    (table.lookup index).isSome = (table.map (·.1)).contains index := by
  induction table with
  | nil => rfl
  | cons p rest ih =>
    obtain ⟨k, v⟩ := p
    rw [isSome_lookup_cons, ih, List.map_cons, List.contains_cons]

/-- A group that a condition tells by its number is noted once, wherever it is told first. -/
theorem Inside.noted (h : Inside enclosing behind s t) (index place place' : Nat) :
    Inside enclosing behind
      (if (s.conditions.lookup index).isSome then s
        else { s with conditions := (index, place) :: s.conditions })
      (if (t.conditions.lookup index).isSome then t
        else { t with conditions := (index, place') :: t.conditions }) := by
  have hknown : (t.conditions.lookup index).isSome = (s.conditions.lookup index).isSome := by
    rw [isSome_lookup, isSome_lookup, h.conditions]
  rw [hknown]
  split
  · exact h
  · have hconditions : ((index, place') :: t.conditions).map (·.1) =
        ((index, place) :: s.conditions).map (·.1) := by
      rw [List.map_cons, List.map_cons, h.conditions]
    exact ⟨⟨h.rest, h.whole⟩, h.nextGroup, h.positive, h.names, h.widths, h.closed, h.bound,
      h.lookbehind, h.behind, hconditions, h.flags⟩

theorem mirrors_conditionGroup (h : Inside enclosing behind s t) :
    Mirrors enclosing behind (fun _ => True) tellsInside s t conditionGroup conditionGroup := by
  unfold conditionGroup
  refine .bind h (.takeName h.toExtends _ _) fun name s t h => ?_
  refine .ite (fun _ => ?_) fun _ => ?_
  · exact (mirrors_groupNamed h name).bind_image fun _ _ _ h => .pure h trivial
  · cases readInt 10 name with
    | error e => exact .of_fails (fails_failBack _ _)
    | ok i =>
      refine .ite (fun _ => .of_fails (fails_failBack _ _)) fun _ => ?_
      refine .ite (fun _ => .of_fails (fails_failBack _ _)) fun _ => ?_
      refine .ite (fun _ => .of_fails (fails_failBack _ _)) fun _ => ?_
      intro p s' hp
      obtain ⟨_, s₁, hset, hp⟩ := exists_of_bind_ok hp
      cases hset
      cases hp
      exact .ok (h.noted _ _ _) trivial

/-- What an opening parenthesis stands for, inside the frame. -/
def Opening.renumbered : Opening → Opening
  | .reference index => .reference (index + 1)
  | opening => opening

theorem mirrors_readFlags (h : Inside enclosing behind s t) (first : Char) :
    Mirrors enclosing behind (fun _ => True) Opening.renumbered s t (readFlags first)
      (readFlags first) := by
  have hfuel : s.rest.length + 1 ≤ t.rest.length + 1 := by
    rw [h.rest, List.length_append]
    omega
  unfold readFlags
  refine .get (.bind h (.readOn hfuel h.toExtends first) fun on s t h => ?_)
  obtain ⟨on, stop⟩ := on
  refine .ite (fun _ => ?_) fun _ => .ite (fun _ => .of_fails (fails_failBack _ _)) fun _ => ?_
  · intro opening s' hopening
    cases hopening
    refine .ok ?_ trivial
    have hsame : t.flags ++ on = s.flags ++ on := by rw [h.flags]
    exact ⟨⟨h.rest, h.whole⟩, h.nextGroup, h.positive, h.names, h.widths, h.closed, h.bound,
      h.lookbehind, h.behind, h.conditions, hsame⟩
  · refine .bind h (.readOff hfuel h.toExtends stop) fun off s t h => ?_
    refine .ite (fun _ => .of_fails (fails_failBack _ _)) fun _ => ?_
    refine .ite (fun _ => .of_fails (fails_failBack _ _)) fun _ => ?_
    exact .pure h trivial

theorem mirrors_readNamed (h : Inside enclosing behind s t) :
    Mirrors enclosing behind (fun _ => True) Opening.renumbered s t readNamed readNamed := by
  unfold readNamed
  refine .bind h (.accept h.toExtends (by decide)) fun angle _ _ h => .ite (fun _ => ?_) fun _ => ?_
  · refine .bind h (.takeName h.toExtends _ _) fun name _ _ h => ?_
    exact .bind h (.checkName h.toExtends name) fun _ _ _ h => .pure h trivial
  · refine .bind h (.accept h.toExtends (by decide)) fun equals _ _ h =>
      .ite (fun _ => ?_) fun _ => ?_
    · exact (mirrors_namedReference h).bind_image fun _ _ _ h => .pure h trivial
    · refine .of_fails (.bind fun u => ?_)
      cases u with
      | none => exact fails_failBack _ _
      | some u => exact fails_failBack _ _

theorem mirrors_readLookbehind (h : Inside enclosing behind s t) :
    Mirrors enclosing behind (fun _ => True) Opening.renumbered s t readLookbehind
      readLookbehind := by
  unfold readLookbehind
  refine .take h (fails_failBack _ _) fun u _ _ h => ?_
  split
  · exact .of_fails (fails_failBack _ _)
  · exact .pure h trivial
  · exact .pure h trivial
  · exact .of_fails (fails_failBack _ _)

theorem mirrors_readOpening (h : Inside enclosing behind s t) (start start' : Nat) :
    Mirrors enclosing behind (fun _ => True) Opening.renumbered s t (readOpening start)
      (readOpening start') := by
  unfold readOpening
  refine .bind h (.accept h.toExtends (by decide)) fun mark _ _ h => .ite (fun _ => ?_) fun _ => ?_
  · refine .take h (fails_failBack _ _) fun u _ _ h => ?_
    split
    · exact .of_fails (fails_failBack _ _)
    · exact mirrors_readNamed h
    · exact .pure h trivial
    · exact .bind h (.skipComment h.toExtends start start') fun _ _ _ h => .pure h trivial
    · exact .pure h trivial
    · exact .pure h trivial
    · exact mirrors_readLookbehind h
    · exact .pure h trivial
    · exact .pure h trivial
    · split
      · exact .of_fails (fails_failBack _ _)
      · exact mirrors_readFlags h _
  · exact .pure h trivial

end QuasiGrammar.Regex
