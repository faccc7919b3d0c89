import QuasiGrammar.Proofs.Regex.Inside

/-
  QuasiGrammar.Proofs.Regex.Sequences
  ───────────────────────────────────
  **A choice that is read alone is read inside the frame if it has no flags for
  the whole expression and its numbers tell closed groups there, and is refused
  there otherwise.**

  The induction is on the steps that the reader has.  Alone it has enough of them
  for the tokens that are left (`Begun`), so that it never stops for want of
  steps; inside the frame it has at least as many.
-/

namespace QuasiGrammar.Regex

variable {α β : Type} {s s' s'' t t' : Scan} {enclosing : List Nat} {behind : Bool}

/-- What is in order inside the frame: no flags of the whole expression have been read, and what
has been read fits. -/
structure Sound (fits : Bool) (s : Scan) : Prop where
  flags : s.flags = []
  fits : fits = true

/-! ## §1. Groups. -/

/-- One more group is open. -/
theorem Inside.opened (h : Inside enclosing behind s t) (names : List (List Char × Nat)) :
    Inside (s.nextGroup :: enclosing) behind
      { s with nextGroup := s.nextGroup + 1, names := names }
      { t with nextGroup := t.nextGroup + 1, names := names.map fun p => (p.1, p.2 + 1) } := by
  refine ⟨⟨h.rest, h.whole⟩, ?_, Nat.succ_pos _, rfl, h.widths, fun i => ?_, fun i hi => ?_,
    h.lookbehind, h.behind, h.conditions, h.flags⟩
  · show t.nextGroup + 1 = s.nextGroup + 1 + 1
    rw [h.nextGroup]
  · -- The closed groups are the same: there is one number more, and it is that of an open group.
    show (s.widths.lookup i).isSome = true ↔
      0 < i ∧ i < s.nextGroup + 1 ∧ i ∉ s.nextGroup :: enclosing
    rw [h.closed i, List.mem_cons, not_or]
    grind
  · show i < s.nextGroup + 1
    rcases List.mem_cons.1 hi with rfl | hi
    · exact Nat.lt_succ_self _
    · exact Nat.lt_succ_of_lt (h.bound i hi)

/-- A group is opened inside the frame under the number after its own. -/
theorem Inside.openGroup (h : Inside enclosing behind s t) {name : Option (List Char)}
    {index : Nat} (hs : openGroup name s = .ok (index, s')) :
    index = s.nextGroup ∧
      ∃ t', openGroup name t = .ok (index + 1, t') ∧ Inside (index :: enclosing) behind s' t' := by
  obtain ⟨_, _, hget, hs⟩ := exists_of_bind_ok hs
  cases hget
  unfold Regex.openGroup
  rw [get_bind]
  cases name with
  | none =>
    cases hs
    refine ⟨rfl, _, ?_, h.opened s.names⟩
    rw [← h.names, ← h.nextGroup]
    rfl
  | some name =>
    have hlookup := lookup_map s.names name
    rw [← h.names] at hlookup
    cases hfirst : s.names.lookup name with
    | some first =>
      simp only [hfirst] at hs
      cases hs
    | none =>
      rw [hfirst, Option.map_none] at hlookup
      simp only [hfirst] at hs
      cases hs
      refine ⟨rfl, _, ?_, h.opened ((name, s.nextGroup) :: s.names)⟩
      simp only [hlookup, List.map_cons, ← h.names, ← h.nextGroup]
      rfl

/-- The group that was opened last but for those closed since is closed. -/
theorem Inside.closeGroup {index : Nat} (h : Inside (index :: enclosing) behind s t)
    (hpositive : 0 < index) (hnew : index ∉ enclosing) (body body' : List Item) :
    ∃ s' t', closeGroup index body s = .ok ((), s') ∧
      closeGroup (index + 1) body' t = .ok ((), t') ∧
        Inside enclosing behind s' t' := by
  have hbound := h.bound index (List.mem_cons_self ..)
  refine ⟨_, _, rfl, rfl, ⟨⟨h.rest, h.whole⟩, h.nextGroup, h.positive, h.names, fun i => ?_,
    fun i => ?_, fun i hi => h.bound i (List.mem_cons_of_mem _ hi), h.lookbehind, h.behind,
    h.conditions, h.flags⟩⟩
  · show (((index + 1, _) :: t.widths).lookup (i + 1)).isSome =
      (((index, _) :: s.widths).lookup i).isSome
    have hsucc : (i + 1 == index + 1) = (i == index) := by
      rw [Bool.eq_iff_iff, beq_iff_eq, beq_iff_eq, Nat.add_right_cancel_iff]
    rw [isSome_lookup_cons, isSome_lookup_cons, h.widths i, hsucc]
  · show (((index, _) :: s.widths).lookup i).isSome = true ↔ _
    have hclosed := h.closed i
    rw [List.mem_cons, not_or] at hclosed
    rw [isSome_lookup_cons, Bool.or_eq_true, hclosed, beq_iff_eq]
    show i = index ∨ _ ↔ 0 < i ∧ i < s.nextGroup ∧ i ∉ enclosing
    grind

/-- The outermost lookbehind begins. -/
theorem Inside.beginBehind (h : Inside enclosing behind s t) :
    Inside enclosing true { s with lookbehind := some s.nextGroup }
      { t with lookbehind := some t.nextGroup } := by
  refine ⟨⟨h.rest, h.whole⟩, h.nextGroup, h.positive, h.names, h.widths, h.closed, h.bound, ?_, rfl,
    h.conditions, h.flags⟩
  show some t.nextGroup = some (s.nextGroup + 1)
  rw [h.nextGroup]

/-- The outermost lookbehind ends. -/
theorem Inside.endBehind (h : Inside enclosing behind s t) :
    Inside enclosing false { s with lookbehind := none } { t with lookbehind := none } :=
  ⟨⟨h.rest, h.whole⟩, h.nextGroup, h.positive, h.names, h.widths, h.closed, h.bound, rfl, rfl,
    h.conditions, h.flags⟩

/-- What is read in a lookahead or lookbehind. -/
theorem Inside.inLook (h : Inside enclosing behind s t) {ahead fits : Bool} {m : Read α}
    {n : Read β} {a : α} {b : β}
    (hbody : ∀ {s₁ t₁ s₂}, Inside enclosing (behind || !ahead) s₁ t₁ → m s₁ = .ok (a, s₂) →
      s₁.rest = s.rest → s₁.flags = s.flags → s₂.rest = s'.rest →
        Comes enclosing (behind || !ahead) (Sound fits s₂) s₂ b (n t₁))
    (hs : inLook ahead m s = .ok (a, s')) :
    Comes enclosing behind (Sound fits s') s' b (inLook ahead n t) := by
  obtain ⟨_, _, hget, hs⟩ := exists_of_bind_ok hs
  cases hget
  have hinside : t.lookbehind.isNone = s.lookbehind.isNone := by
    rw [h.lookbehind, Option.isNone_map]
  unfold Regex.inLook
  rw [get_bind, hinside]
  by_cases houter : (!ahead && s.lookbehind.isNone) = true
  · -- The outermost lookbehind: it begins and ends here.
    rw [if_pos houter] at hs ⊢
    obtain ⟨hlook, hnone⟩ := Bool.and_eq_true_iff.1 houter
    have hbehind : behind = false := by
      rw [← h.behind, ← Bool.not_eq_true', Option.not_isSome]
      exact hnone
    subst hbehind
    rw [hlook] at hbody
    obtain ⟨_, s₁, hset, hs⟩ := exists_of_bind_ok hs
    cases hset
    obtain ⟨_, s₂, hm, hs⟩ := exists_of_bind_ok hs
    cases hs
    have hsame : Sound fits { s₂ with lookbehind := none } ↔ Sound fits s₂ :=
      ⟨fun hsound => ⟨hsound.flags, hsound.fits⟩, fun hsound => ⟨hsound.flags, hsound.fits⟩⟩
    show Comes _ _ _ _ _ ((n >>= fun b => modify (fun t => { t with lookbehind := none }) >>=
      fun _ => pure b) { t with lookbehind := some t.nextGroup })
    exact (hbody h.beginBehind hm rfl rfl rfl).bind hsame.1
      fun t₂ h₂ hsound => .ok h₂.endBehind (hsame.2 hsound)
  · rw [if_neg houter] at hs ⊢
    have hwithin : (behind || !ahead) = behind := by
      rw [← h.behind]
      cases hlook : s.lookbehind <;> cases ahead <;> simp_all
    rw [hwithin] at hbody
    exact hbody h hs rfl rfl rfl

/-! ## §2. Tokens. -/

theorem mirrors_repeatLast (h : Inside enclosing behind s t) {acc : List Item}
    (hfit : allFit enclosing behind acc = true) (start start' low : Nat) (high : Option Nat) :
    Mirrors enclosing behind (fun acc' => allFit enclosing behind acc' = true) renumberedAll s t
      (repeatLast start low high acc) (repeatLast start' low high (renumberedAll acc)) := by
  cases acc with
  | nil => exact .of_fails (fails_failAt _ _)
  | cons i before =>
    simp only [repeatLast, renumberedAll, isAnchor_renumbered, isRepetition_renumbered,
      repeated_renumbered]
    refine .ite (fun _ => .of_fails (fails_failAt _ _)) fun _ => ?_
    refine .ite (fun _ => .of_fails (fails_failAt _ _)) fun _ => ?_
    refine .bind h (.readGreed h.toExtends) fun greed _ _ h => .pure h ?_
    rw [allFit, Item.fits, allFit_repeated]
    rw [allFit] at hfit
    exact hfit

theorem mirrors_readRepetition (h : Inside enclosing behind s t) {acc : List Item}
    (hfit : allFit enclosing behind acc = true) (c : Char) (start start' : Nat) :
    Mirrors enclosing behind (fun acc' => allFit enclosing behind acc' = true) renumberedAll s t
      (readRepetition c start acc) (readRepetition c start' (renumberedAll acc)) := by
  unfold readRepetition
  refine .bind h (.readQuantifier h.toExtends c) fun bounds _ _ h => ?_
  cases bounds with
  | none => exact .pure h hfit
  | some bounds => exact mirrors_repeatLast h hfit _ _ _ _

theorem Quietly.readRepetition (c : Char) (start : Nat) (acc : List Item) :
    Quietly (readRepetition c start acc) := by
  unfold Regex.readRepetition
  refine (Quietly.of_local fun _ _ h => .readQuantifier h c).bind fun bounds => ?_
  cases bounds with
  | none => exact .pure _
  | some bounds => exact .repeatLast _ _ _ _

/-- What a token adds alone is added inside the frame.  Only flags of the whole expression turn flag
`x` on for what follows; while it holds, the text goes on. -/
def Accords (enclosing : List Nat) (behind verbose : Bool) (s t : Scan)
    (m n : Read (Bool × List Item)) : Prop :=
  ∀ p s', m s = .ok (p, s') → (verbose = true → s'.rest ≠ []) →
    (s'.flags = [] → p.1 = verbose) ∧
      Comes enclosing behind (Sound (allFit enclosing behind p.2) s') s' (p.1, renumberedAll p.2)
        (n t)

namespace Accords

variable {verbose : Bool} {acc : List Item} {m m' n n' : Read (Bool × List Item)}

theorem pure (h : Inside enclosing behind s t) (hflags : s.flags = [])
    (hfit : allFit enclosing behind acc = true) :
    Accords enclosing behind verbose s t (Pure.pure (verbose, acc))
      (Pure.pure (verbose, renumberedAll acc)) := by
  intro p s' hp _
  cases hp
  exact ⟨fun _ => rfl, .ok h ⟨hflags, hfit⟩⟩

theorem ite {c : Prop} [Decidable c] (h : c → Accords enclosing behind verbose s t m n)
    (h' : ¬ c → Accords enclosing behind verbose s t m' n') :
    Accords enclosing behind verbose s t (if c then m else m') (if c then n else n') := by
  by_cases hc : c
  · rw [if_pos hc, if_pos hc]
    exact h hc
  · rw [if_neg hc, if_neg hc]
    exact h' hc

/-- Something is read that adds to the items, and no flags are. -/
theorem of_mirrors {good : α → Prop} {image : α → β} {k : Read α} {l : Read β}
    (hflags : s.flags = []) (hquiet : Quietly k)
    (hmirrors : Mirrors enclosing behind good image s t k l)
    {add : α → List Item} {add' : β → List Item}
    (himage : ∀ a, add' (image a) = renumberedAll (add a))
    (hgood : ∀ a, allFit enclosing behind (add a) = true ↔ good a) :
    Accords enclosing behind verbose s t (k >>= fun a => Pure.pure (verbose, add a))
      (l >>= fun b => Pure.pure (verbose, add' b)) := by
  intro p s' hp _
  obtain ⟨a, s₁, hk, hp⟩ := exists_of_bind_ok hp
  cases hp
  have hnone : s'.flags = [] := (hquiet s a s' hk).same.trans hflags
  refine ⟨fun _ => rfl, (hmirrors a s' hk).bind (fun hsound => (hgood a).1 hsound.fits) ?_⟩
  intro t' hinside ha
  rw [himage]
  exact .ok hinside ⟨hnone, (hgood a).2 ha⟩

/-- One more item is read. -/
theorem item {k l : Read Item} (hflags : s.flags = []) (hfit : allFit enclosing behind acc = true)
    (hquiet : Quietly k)
    (hmirrors : Mirrors enclosing behind (fun i => i.fits enclosing behind = true) Item.renumbered
      s t k l) :
    Accords enclosing behind verbose s t (k >>= fun i => Pure.pure (verbose, i :: acc))
      (l >>= fun i => Pure.pure (verbose, i :: renumberedAll acc)) := by
  refine of_mirrors hflags hquiet hmirrors (fun _ => rfl) fun i => ?_
  rw [allFit, hfit, Bool.and_true]

end Accords

theorem isFlags_renumbered (opening : Opening) :
    opening.renumbered.isFlags = opening.isFlags := by
  cases opening <;> rfl

section

variable {group group' : Opening → Read (Option Item)} {limit : Nat} {verbose : Bool}
  {acc : List Item}
  (hgroup : ∀ {opening s t i s'}, Inside enclosing behind s t → s.flags = [] →
    s.rest.length ≤ limit → group opening s = .ok (i, s') →
      Comes enclosing behind (Sound (allFit enclosing behind i.toList) s') s'
        (i.map Item.renumbered) (group' opening.renumbered t))

include hgroup

theorem accords_readParenthesis (h : Inside enclosing behind s t) (hflags : s.flags = [])
    (hlimit : s.rest.length ≤ limit) (hfit : allFit enclosing behind acc = true)
    (first : Bool) (start start' : Nat) :
    Accords enclosing behind verbose s t (readParenthesis group verbose first start acc)
      (readParenthesis group' verbose false start' (renumberedAll acc)) := by
  intro p s' hp _
  obtain ⟨opening, s₁, hopening, hp⟩ := exists_of_bind_ok hp
  have hopened := Opens.readOpening start s opening s₁ hopening
  obtain ⟨t₁, hopening', hinside⟩ :=
    (mirrors_readOpening h start start' opening s₁ hopening).succeeds trivial
  unfold readParenthesis
  rw [bind_of_ok hopening', isFlags_renumbered]
  by_cases hisFlags : opening.isFlags = true
  · -- They stand behind other tokens inside the frame.
    rw [if_pos hisFlags] at hp ⊢
    have hsame : s' = s₁ := by
      by_cases hfirst : (first && acc.isEmpty) = true
      · rw [if_pos hfirst] at hp
        cases hp
        rfl
      · rw [if_neg hfirst] at hp
        cases hp
    have hsome : s'.flags ≠ [] := hsame ▸ hopened.more hisFlags
    exact ⟨fun hnone => absurd hnone hsome,
      .of_fails (fails_failAt _ _) fun hsound => hsome hsound.flags⟩
  · rw [if_neg hisFlags] at hp ⊢
    obtain ⟨i, s₂, hi, hp⟩ := exists_of_bind_ok hp
    cases hp
    have hnone : s₁.flags = [] := (hopened.same (Bool.eq_false_iff.2 hisFlags)).trans hflags
    have hlimit₁ := Nat.le_trans hopened.length_le hlimit
    have hiff : allFit enclosing behind (i.toList ++ acc) = allFit enclosing behind i.toList := by
      rw [allFit_append, hfit, Bool.and_true]
    have hcomes := hgroup hinside hnone hlimit₁ hi
    refine ⟨fun _ => rfl, hcomes.bind (fun hsound => ?_) fun t' h' hsound => ?_⟩
    · exact ⟨hsound.flags, hiff ▸ hsound.fits⟩
    · have himage : (i.map Item.renumbered).toList ++ renumberedAll acc =
          renumberedAll (i.toList ++ acc) := by
        cases i <;> rfl
      rw [himage]
      exact .ok h' ⟨hsound.flags, hiff.trans hsound.fits⟩

theorem accords_readToken (h : Inside enclosing behind s t) (hflags : s.flags = [])
    (hlimit : s.rest.length ≤ limit) (hfit : allFit enclosing behind acc = true)
    (first : Bool) (start start' : Nat) (u : Token) :
    Accords enclosing behind verbose s t (readToken group verbose first start acc u)
      (readToken group' verbose false start' (renumberedAll acc) u) := by
  cases u with
  | escaped c => exact .item hflags hfit (.itemEscape c) (mirrors_itemEscape h c)
  | plain c =>
    have hset : Accords enclosing behind verbose s t
        (readSet >>= fun i => pure (verbose, i :: acc))
        (readSet >>= fun i => pure (verbose, i :: renumberedAll acc)) := by
      refine .item hflags hfit (.of_local fun _ _ h => .readSet h) fun i s' hi => ?_
      obtain ⟨negated, members, rfl⟩ := yields_readSet s i s' hi
      exact (h.follow (.readSet h.toExtends) hi).congr ⟨fun _ => trivial, fun _ => rfl⟩
    have hrepetition : ∀ c, Accords enclosing behind verbose s t
        (readRepetition c start acc >>= fun acc' => pure (verbose, acc'))
        (readRepetition c start' (renumberedAll acc) >>= fun acc' => pure (verbose, acc')) :=
      fun c => .of_mirrors hflags (.readRepetition c start acc)
        (mirrors_readRepetition h hfit c start start') (fun _ => rfl) fun _ => Iff.rfl
    simp only [readToken]
    refine .ite (fun _ => .pure h hflags hfit) fun _ => .ite (fun hcomment => ?_) fun _ => ?_
    · intro p s' hp hlive
      obtain ⟨_, s₁, hskip, hp⟩ := exists_of_bind_ok hp
      cases hp
      have hverbose : verbose = true := (Bool.and_eq_true_iff.1 hcomment).1
      obtain ⟨t', hskip', hmoved', hext⟩ := Agree.skipLine h.toExtends hskip (hlive hverbose)
      have hmoved : Moved s s' := (skip_ok hskip).2
      rw [bind_of_ok hskip']
      exact ⟨fun _ => rfl, .ok (h.moved hmoved hmoved' hext) ⟨hmoved.quiet.same.trans hflags, hfit⟩⟩
    · split
      · exact .pure h hflags hfit
      · exact .pure h hflags hfit
      · exact .pure h hflags hfit
      · exact hset
      · exact accords_readParenthesis hgroup h hflags hlimit hfit first start start'
      · exact hrepetition _
      · exact hrepetition _
      · exact hrepetition _
      · exact hrepetition _
      · exact .pure h hflags hfit

end

/-! ## §3. Sequences and choices. -/

/-- Two readers that have steps enough for the tokens that are left. -/
structure Begun (enclosing : List Nat) (behind : Bool) (s t : Scan) (need fuel fuel' : Nat) : Prop
    extends Inside enclosing behind s t where
  none : s.flags = []
  enough : 4 * s.rest.length + need ≤ fuel
  more : fuel ≤ fuel'

/-- What holds of everything that is read with so many steps.  While flag `x` holds, the text goes
on. -/
structure Beside (fuel : Nat) : Prop where
  items : ∀ {enclosing behind verbose first acc s t items s' fuel'},
    Begun enclosing behind s t 1 fuel fuel' → (verbose = true → s'.rest ≠ []) →
      allFit enclosing behind acc = true → readItems fuel verbose first acc s = .ok (items, s') →
        Comes enclosing behind (Sound (allFit enclosing behind items) s') s' (renumberedAll items)
          (readItems fuel' verbose false (renumberedAll acc) t)
  group : ∀ {enclosing behind verbose start start' opening s t i s' fuel'},
    Begun enclosing behind s t 3 fuel fuel' →
      readGroup fuel verbose start opening s = .ok (i, s') →
        Comes enclosing behind (Sound (allFit enclosing behind i.toList) s') s'
          (i.map Item.renumbered) (readGroup fuel' verbose start' opening.renumbered t)
  choice : ∀ {enclosing behind verbose top s t items s' fuel'},
    Begun enclosing behind s t 2 fuel fuel' → (verbose = true → s'.rest ≠ []) →
      (top = true → verbose = false) → readChoice fuel verbose top s = .ok (items, s') →
        Comes enclosing behind (Sound (allFit enclosing behind items) s') s' (renumberedAll items)
          (readChoice fuel' verbose false t)
  alternatives : ∀ {enclosing behind verbose top s t alternatives s' fuel'},
    Begun enclosing behind s t 1 fuel fuel' → (verbose = true → s'.rest ≠ []) →
      (top = true → verbose = false) →
        readAlternatives fuel verbose top s = .ok (alternatives, s') →
          Comes enclosing behind (Sound (eachFits enclosing behind alternatives) s') s'
            (renumberedEach alternatives) (readAlternatives fuel' verbose false t)

theorem length_of_skip {count : Nat} {u : Unit} (hcount : count ≤ s.rest.length)
    (h : skip count s = .ok (u, s')) : s'.rest.length + count = s.rest.length := by
  rw [(skip_ok h).1]
  show (s.rest.drop count).length + count = _
  rw [List.length_drop]
  omega

theorem length_of_accept {c : Char} (h : accept c s = .ok (true, s')) :
    s'.rest.length + 1 = s.rest.length := by
  by_cases hhead : s.rest.head? = some (.plain c)
  · rw [accept_of_head hhead] at h
    obtain ⟨_, s₁, hskip, h⟩ := exists_of_bind_ok h
    cases h
    exact length_of_skip (one_le_length_of_head hhead) hskip
  · rw [accept_of_not_head hhead] at h
    cases h

variable {fuel fuel' : Nat} {verbose first top : Bool}

theorem Beside.readItems (ih : Beside fuel) {acc items : List Item}
    (h : Begun enclosing behind s t 1 (fuel + 1) fuel') (hlive : verbose = true → s'.rest ≠ [])
    (hfit : allFit enclosing behind acc = true)
    (hs : readItems (fuel + 1) verbose first acc s = .ok (items, s')) :
    Comes enclosing behind (Sound (allFit enclosing behind items) s') s' (renumberedAll items)
      (readItems fuel' verbose false (renumberedAll acc) t) := by
  obtain ⟨fuel', rfl⟩ : ∃ n, fuel' = n + 1 := ⟨fuel' - 1, by have := h.more; omega⟩
  have hend : (pure acc.reverse : Read (List Item)) s = .ok (items, s') →
      Comes enclosing behind (Sound (allFit enclosing behind items) s') s' (renumberedAll items)
        ((pure (renumberedAll acc).reverse : Read (List Item)) t) := by
    intro hpure
    cases hpure
    rw [← renumberedAll_reverse]
    exact .ok h.toInside ⟨h.none, (allFit_reverse _ _ _).trans hfit⟩
  rw [Regex.readItems, peek_bind] at hs ⊢
  cases hrest : s.rest with
  | nil =>
    -- The frame closes the group right after the expression.
    have hhead : t.rest.head? = some (.plain ')') := by
      rw [h.rest, hrest]
      rfl
    rw [hrest] at hs
    rw [hhead]
    exact hend hs
  | cons u more =>
    have hhead : t.rest.head? = some u := by
      rw [h.rest, hrest]
      rfl
    have hone : 1 ≤ s.rest.length := by simp [hrest]
    rw [hrest, List.head?_cons] at hs
    rw [hhead]
    revert hs
    generalize some u = next
    split
    · exact hend
    · exact hend
    · exact hend
    · intro hs
      rw [get_bind] at hs ⊢
      obtain ⟨_, s₁, hskip, hs⟩ := exists_of_bind_ok hs
      obtain ⟨p, s₂, htoken, hs⟩ := exists_of_bind_ok hs
      have hgrows := (known fuel).items hs
      have hnone₁ : s₁.flags = [] := (Quietly.skip 1 s _ s₁ hskip).same.trans h.none
      have hless := length_of_skip hone hskip
      have henough := h.enough
      refine (h.follow (.skip h.toExtends hone) hskip).bind (fun _ => trivial) fun t₁ h₁ _ => ?_
      obtain ⟨hsame, hcomes⟩ := accords_readToken
        (fun hinside hnone hlimit hi =>
          ih.group ⟨hinside, hnone, by omega, Nat.le_of_succ_le_succ h.more⟩ hi)
        h₁ hnone₁ (Nat.le_refl _) hfit first s.place t.place _ p s₂ htoken
        fun hverbose => hgrows.rest_ne_nil (hlive hverbose)
      refine hcomes.bind (fun hsound => ⟨hgrows.flags_eq_nil hsound.flags, ?_⟩)
        fun t₂ h₂ hsound => ?_
      · exact hgrows.fits _ _ ((allFit_reverse _ _ _).trans hsound.fits)
      · have hle := (adds_readToken (known fuel).group _ _ _ _ _ s₁ p s₂ htoken).length_le
        refine ih.items ⟨h₂, hsound.flags, by omega, Nat.le_of_succ_le_succ h.more⟩ ?_
          hsound.fits hs
        rw [hsame hsound.flags]
        exact hlive

/-- A sequence and those after it. -/
theorem Beside.sequences (ih : Beside fuel) {γ : Type} {good : Prop} {c : γ} {s₁ s₃ : Scan}
    {head : List Item} {tail : List (List Item)} {k : List Item → List (List Item) → Read γ}
    (h : Begun enclosing behind s t 1 fuel fuel') (hlive : verbose = true → s'.rest ≠ [])
    (htop : top = true → verbose = false)
    (hhead : Regex.readItems fuel verbose first [] s = .ok (head, s₁))
    (htail : Regex.readAlternatives fuel verbose top s₁ = .ok (tail, s'))
    (hgood : good → Sound (eachFits enclosing behind (head :: tail)) s')
    (hnext : ∀ t', Inside enclosing behind s' t' →
      Sound (eachFits enclosing behind (head :: tail)) s' →
        Comes enclosing behind good s₃ c (k (renumberedAll head) (renumberedEach tail) t')) :
    Comes enclosing behind good s₃ c
      ((Regex.readItems fuel' verbose false [] >>= fun head =>
        Regex.readAlternatives fuel' verbose false >>= fun tail => k head tail) t) := by
  have henough := h.enough
  have hadvances := ((known fuel).alternatives htail).1
  have hle := ((known fuel).items hhead).length_le
  have hparts : good → Sound (allFit enclosing behind head) s₁ ∧
      Sound (eachFits enclosing behind tail) s' := by
    intro hg
    obtain ⟨hfitsHead, hfitsTail⟩ := Bool.and_eq_true_iff.1 (hgood hg).fits
    exact ⟨⟨hadvances.flags_eq_nil (hgood hg).flags, hfitsHead⟩, (hgood hg).flags, hfitsTail⟩
  have hcomes := ih.items h (fun hverbose => hadvances.rest_ne_nil (hlive hverbose)) rfl hhead
  refine hcomes.bind (fun hg => (hparts hg).1) fun t₁ h₁ hsound₁ => ?_
  have hcomes₁ := ih.alternatives ⟨h₁, hsound₁.flags, by omega, h.more⟩ hlive htop htail
  refine hcomes₁.bind (fun hg => (hparts hg).2) fun t₂ h₂ hsound₂ => ?_
  exact hnext t₂ h₂ ⟨hsound₂.flags, Bool.and_eq_true_iff.2 ⟨hsound₁.fits, hsound₂.fits⟩⟩

theorem Beside.readChoice (ih : Beside fuel) {items : List Item}
    (h : Begun enclosing behind s t 2 (fuel + 1) fuel') (hlive : verbose = true → s'.rest ≠ [])
    (htop : top = true → verbose = false)
    (hs : readChoice (fuel + 1) verbose top s = .ok (items, s')) :
    Comes enclosing behind (Sound (allFit enclosing behind items) s') s' (renumberedAll items)
      (readChoice fuel' verbose false t) := by
  obtain ⟨fuel', rfl⟩ : ∃ n, fuel' = n + 1 := ⟨fuel' - 1, by have := h.more; omega⟩
  have henough := h.enough
  rw [Regex.readChoice] at hs ⊢
  obtain ⟨head, s₁, hhead, hs⟩ := exists_of_bind_ok hs
  obtain ⟨tail, s₂, htail, hs⟩ := exists_of_bind_ok hs
  -- One sequence stands for itself; more of them are the alternatives of one item.
  have hended : s' = s₂ ∧
      allFit enclosing behind items = eachFits enclosing behind (head :: tail) ∧
        (pure (renumberedAll items) : Read (List Item)) =
          if (renumberedEach tail).isEmpty then pure (renumberedAll head)
          else pure [.branch (renumberedAll head :: renumberedEach tail)] := by
    cases tail with
    | nil =>
      cases hs
      exact ⟨rfl, (Bool.and_true _).symm, rfl⟩
    | cons next more =>
      cases hs
      exact ⟨rfl, Bool.and_true _, rfl⟩
  obtain ⟨rfl, hfits, himage⟩ := hended
  rw [hfits]
  refine ih.sequences ⟨h.toInside, h.none, by omega, Nat.le_of_succ_le_succ h.more⟩ hlive htop hhead
    htail id fun t' h' hsound => ?_
  rw [← himage]
  exact .ok h' hsound

theorem Beside.readAlternatives (ih : Beside fuel) {alternatives : List (List Item)}
    (h : Begun enclosing behind s t 1 (fuel + 1) fuel') (hlive : verbose = true → s'.rest ≠ [])
    (htop : top = true → verbose = false)
    (hs : readAlternatives (fuel + 1) verbose top s = .ok (alternatives, s')) :
    Comes enclosing behind (Sound (eachFits enclosing behind alternatives) s') s'
      (renumberedEach alternatives) (readAlternatives fuel' verbose false t) := by
  obtain ⟨fuel', rfl⟩ : ∃ n, fuel' = n + 1 := ⟨fuel' - 1, by have := h.more; omega⟩
  have henough := h.enough
  rw [Regex.readAlternatives] at hs ⊢
  obtain ⟨bar, s₁, hbar, hs⟩ := exists_of_bind_ok hs
  refine (h.follow (.accept h.toExtends (by decide)) hbar).bind (fun _ => trivial) fun t₁ h₁ _ => ?_
  have hnone₁ : s₁.flags = [] := (Quietly.accept (by decide) s bar s₁ hbar).same.trans h.none
  cases bar with
  | false =>
    cases hs
    exact .ok h₁ ⟨hnone₁, rfl⟩
  | true =>
    have hless := length_of_accept hbar
    -- Without flags of the whole expression, flag `x` is as it was before the bar.
    have hverbose : (if top then s₁.flags.contains 'x' else verbose) = verbose := by
      cases top with
      | false => rfl
      | true =>
        rw [hnone₁, htop rfl]
        rfl
    rw [if_pos rfl, get_bind] at hs
    simp only [hverbose] at hs
    rw [if_pos rfl, get_bind]
    obtain ⟨head, s₂, hhead, hs⟩ := exists_of_bind_ok hs
    obtain ⟨tail, s₃, htail, hs⟩ := exists_of_bind_ok hs
    cases hs
    exact ih.sequences ⟨h₁, hnone₁, by omega, Nat.le_of_succ_le_succ h.more⟩ hlive htop hhead htail
      id fun t' h' hsound => .ok h' hsound

/-- The second sequence of a condition. -/
theorem Beside.afterBar (ih : Beside fuel) (h : Begun enclosing behind s t 1 fuel fuel')
    (hlive : verbose = true → s'.rest ≠ []) {items : List Item}
    (hs : afterBar (Regex.readItems fuel verbose false []) s = .ok (items, s')) :
    Comes enclosing behind (Sound (allFit enclosing behind items) s') s' (renumberedAll items)
      (afterBar (Regex.readItems fuel' verbose false []) t) := by
  have henough := h.enough
  unfold Regex.afterBar at hs ⊢
  obtain ⟨bar, s₁, hbar, hs⟩ := exists_of_bind_ok hs
  refine (h.follow (.accept h.toExtends (by decide)) hbar).bind (fun _ => trivial) fun t₁ h₁ _ => ?_
  have hnone₁ : s₁.flags = [] := (Quietly.accept (by decide) s bar s₁ hbar).same.trans h.none
  cases bar with
  | false =>
    cases hs
    exact .ok h₁ ⟨hnone₁, rfl⟩
  | true =>
    have hless := length_of_accept hbar
    rw [if_pos rfl] at hs ⊢
    obtain ⟨no, s₂, hno, hs⟩ := exists_of_bind_ok hs
    rw [peek_bind] at hs
    by_cases hthird : s₂.rest.head? = some (.plain '|')
    · rw [if_pos hthird] at hs
      cases hs
    · rw [if_neg hthird] at hs
      cases hs
      refine (ih.items ⟨h₁, hnone₁, by omega, h.more⟩ hlive rfl hno).bind id fun t₂ h₂ hsound => ?_
      have hthird' : t₂.rest.head? ≠ some (.plain '|') := by
        rw [h₂.rest, List.head?_append]
        cases hrest : s'.rest.head? with
        | none => simp [frameEnd]
        | some u => simpa [hrest] using hthird
      rw [peek_bind, if_neg hthird']
      exact .ok h₂ hsound

theorem rest_ne_nil_of_expectClosing {start : Nat} {u : Unit}
    (h : expectClosing start s = .ok (u, s')) : s.rest ≠ [] := by
  obtain ⟨closed, s₁, hclose, h⟩ := exists_of_bind_ok h
  cases closed with
  | false => cases h
  | true =>
    have hless := length_of_accept hclose
    intro hnil
    rw [hnil] at hless
    cases hless

/-- What is read is followed by a closing parenthesis. -/
theorem Comes.closed {γ : Type} {around : List Nat} {within fits : Bool} {good : Prop}
    {start start' : Nat} {u : Unit} {n : Read α} {a : α} {k : α → Read γ} {c : γ} {s₃ : Scan}
    (h : Comes enclosing behind (Sound fits s') s' a (n t))
    (hclose : expectClosing start s' = .ok (u, s'')) (hgood : good → Sound fits s'')
    (hnext : ∀ t', Inside enclosing behind s'' t' → Sound fits s'' →
      Comes around within good s₃ c (k a t')) :
    Comes around within good s₃ c
      ((n >>= fun a => expectClosing start' >>= fun _ => k a) t) := by
  have hsame := (Quietly.expectClosing start s' u s'' hclose).same
  refine h.bind (fun hg => ⟨hsame ▸ (hgood hg).flags, (hgood hg).fits⟩) fun t₁ h₁ hsound => ?_
  refine (h₁.follow (.expectClosing h₁.toExtends start start') hclose).bind (fun _ => trivial)
    fun t₂ h₂ _ => ?_
  exact hnext t₂ h₂ ⟨hsame.trans hsound.flags, hsound.fits⟩

/-- What is read becomes one item with the closing parenthesis. -/
theorem Comes.wrapped {fits : Bool} {start start' : Nat} {u : Unit} {n : Read (List Item)}
    {body : List Item} {wrap : List Item → Item}
    (h : Comes enclosing behind (Sound fits s') s' (renumberedAll body) (n t))
    (hclose : expectClosing start s' = .ok (u, s''))
    (hfits : (wrap body).fits enclosing behind = fits)
    (himage : (wrap body).renumbered = wrap (renumberedAll body)) :
    Comes enclosing behind (Sound (allFit enclosing behind (some (wrap body)).toList) s'') s''
      ((some (wrap body)).map Item.renumbered)
      ((n >>= fun body => expectClosing start' >>= fun _ => pure (some (wrap body))) t) := by
  have hone : allFit enclosing behind (some (wrap body)).toList = fits := by
    rw [← hfits]
    exact Bool.and_true _
  rw [hone]
  refine h.closed hclose id fun t' h' hsound => ?_
  rw [Option.map_some, himage]
  exact .ok h' hsound

/-- The body of a group, which a closing parenthesis follows. -/
theorem Beside.body (ih : Beside fuel) (h : Begun enclosing behind s t 2 fuel fuel')
    {start : Nat} {u : Unit} {items : List Item}
    (hs : Regex.readChoice fuel verbose false s = .ok (items, s'))
    (hclose : expectClosing start s' = .ok (u, s'')) :
    Comes enclosing behind (Sound (allFit enclosing behind items) s') s' (renumberedAll items)
      (Regex.readChoice fuel' verbose false t) :=
  ih.choice h (fun _ => rest_ne_nil_of_expectClosing hclose)
    (fun htop => absurd htop Bool.false_ne_true) hs

/-- The group of a condition can be told inside the frame if it was told by its name, stands in no
lookbehind, or tells a closed one there. -/
theorem Inside.checkLookbehind_told (h : Inside enclosing behind s t) {p : Nat × Bool} {u : Unit}
    (hs : checkLookbehind p.1 s = .ok (u, s')) :
    s' = s ∧ Comes enclosing behind ((p.2 || !behind || tellsClosed enclosing p.1) = true) s ()
      (checkLookbehind (tellsInside p).1 t) := by
  obtain ⟨index, named⟩ := p
  cases named with
  | true =>
    obtain ⟨hsame, hok⟩ := h.checkLookbehind_succ hs
    refine ⟨hsame, ?_⟩
    show Comes _ _ _ _ _ (checkLookbehind (index + 1) t)
    rw [hok]
    exact .ok h rfl
  | false =>
    obtain ⟨hsame, hcomes⟩ := h.checkLookbehind_number hs
    refine ⟨hsame, hcomes.congr ?_⟩
    cases behind <;> simp

/-- A group that captures. -/
theorem Beside.readGroup_group (ih : Beside fuel) {start start' : Nat} {name : Option (List Char)}
    {i : Option Item} (h : Begun enclosing behind s t 3 (fuel + 1) (fuel' + 1))
    (hs : readGroup (fuel + 1) verbose start (.group name) s = .ok (i, s')) :
    Comes enclosing behind (Sound (allFit enclosing behind i.toList) s') s'
      (i.map Item.renumbered) (readGroup (fuel' + 1) verbose start' (.group name) t) := by
  have henough := h.enough
  rw [readGroup] at hs
  obtain ⟨index, s₁, hopen, hs⟩ := exists_of_bind_ok hs
  obtain ⟨body, s₂, hbody, hs⟩ := exists_of_bind_ok hs
  obtain ⟨_, s₃, hclose, hs⟩ := exists_of_bind_ok hs
  obtain ⟨_, s₄, hclosed, hs⟩ := exists_of_bind_ok hs
  cases hs
  obtain ⟨-, -, -, hsame, hadvances⟩ := openGroup_ok hopen
  have hle := hadvances.length_le
  obtain ⟨rfl, t₁, hopen', h₁⟩ := h.openGroup hopen
  have hnew : s.nextGroup ∉ enclosing := fun hmem => Nat.lt_irrefl _ (h.bound _ hmem)
  have hbegun₁ : Begun (s.nextGroup :: enclosing) behind s₁ t₁ 2 fuel fuel' :=
    ⟨h₁, hsame.trans h.none, by omega, Nat.le_of_succ_le_succ h.more⟩
  have hfits : allFit enclosing behind [.group (some s.nextGroup) [] [] body] =
      allFit (s.nextGroup :: enclosing) behind body := Bool.and_true _
  have hflags : s'.flags = s₃.flags := by
    cases hclosed
    rfl
  rw [readGroup, bind_of_ok hopen']
  refine (ih.body hbegun₁ hbody hclose).closed hclose (fun hsound => ?_) fun t₃ h₃ hsound => ?_
  · exact ⟨hflags ▸ hsound.flags, hfits ▸ hsound.fits⟩
  · obtain ⟨_, t₄, hs₄, ht₄, h₄⟩ := h₃.closeGroup h.positive hnew body (renumberedAll body)
    rw [hs₄] at hclosed
    cases hclosed
    rw [bind_of_ok ht₄]
    exact .ok h₄ ⟨hflags.trans hsound.flags, hfits.trans hsound.fits⟩

/-- A condition. -/
theorem Beside.readGroup_conditional (ih : Beside fuel) {start start' : Nat} {i : Option Item}
    (h : Begun enclosing behind s t 3 (fuel + 1) (fuel' + 1))
    (hs : readGroup (fuel + 1) verbose start .conditional s = .ok (i, s')) :
    Comes enclosing behind (Sound (allFit enclosing behind i.toList) s') s'
      (i.map Item.renumbered) (readGroup (fuel' + 1) verbose start' .conditional t) := by
  have henough := h.enough
  have hmore := Nat.le_of_succ_le_succ h.more
  rw [readGroup] at hs
  obtain ⟨p, s₁, hgroup, hs⟩ := exists_of_bind_ok hs
  obtain ⟨_, s₂, hcheck, hs⟩ := exists_of_bind_ok hs
  obtain ⟨yes, s₃, hyes, hs⟩ := exists_of_bind_ok hs
  obtain ⟨no, s₄, hno, hs⟩ := exists_of_bind_ok hs
  obtain ⟨_, s₅, hclose, hs⟩ := exists_of_bind_ok hs
  cases hs
  have hquiet := Quietly.conditionGroup s p s₁ hgroup
  obtain ⟨t₁, hgroup', h₁⟩ := (mirrors_conditionGroup h.toInside p s₁ hgroup).succeeds trivial
  obtain ⟨rfl, hcomes⟩ := h₁.checkLookbehind_told hcheck
  have hadvances₁ := ((known fuel).sequence hyes).1
  have hadvances₂ := ((known fuel).afterBar hno).1
  have hclosing := Quietly.expectClosing start s₄ _ _ hclose
  have hleft := rest_ne_nil_of_expectClosing hclose
  have hle₁ := hquiet.length_le
  have hle₂ := hadvances₁.length_le
  have hfits : allFit enclosing behind [.conditional p.1 p.2 yes no] =
      ((p.2 || !behind || tellsClosed enclosing p.1) &&
        (allFit enclosing behind yes && allFit enclosing behind no)) := Bool.and_true _
  -- If all is in order in the end, the group can be told, and both sequences are in order.
  have hparts : Sound (allFit enclosing behind [.conditional p.1 p.2 yes no]) s' →
      (p.2 || !behind || tellsClosed enclosing p.1) = true ∧
        Sound (allFit enclosing behind yes) s₃ ∧ Sound (allFit enclosing behind no) s₄ := by
    intro hsound
    have hall := hsound.fits
    rw [hfits, Bool.and_eq_true, Bool.and_eq_true] at hall
    have hnone₄ := hclosing.toAdvances.flags_eq_nil hsound.flags
    exact ⟨hall.1, ⟨hadvances₂.flags_eq_nil hnone₄, hall.2.1⟩, hnone₄, hall.2.2⟩
  rw [readGroup, bind_of_ok hgroup']
  refine hcomes.bind (fun hsound => (hparts hsound).1) fun t₂ h₂ htold => ?_
  have hcomes₂ := ih.items ⟨h₂, hquiet.same.trans h.none, by omega, hmore⟩
    (fun _ => hadvances₂.rest_ne_nil hleft) rfl hyes
  refine hcomes₂.bind (fun hsound => (hparts hsound).2.1) fun t₃ h₃ hsound₃ => ?_
  have hcomes₃ := ih.afterBar ⟨h₃, hsound₃.flags, by omega, hmore⟩ (fun _ => hleft) hno
  refine hcomes₃.closed hclose (fun hsound => ?_) fun t₄ h₄ hsound₄ => ?_
  · exact ⟨hsound.flags, (hparts hsound).2.2.fits⟩
  · refine .ok h₄ ⟨hsound₄.flags, hfits.trans ?_⟩
    rw [htold, hsound₃.fits, hsound₄.fits]
    rfl

theorem Beside.readGroup (ih : Beside fuel) {start start' : Nat} {opening : Opening}
    {i : Option Item} (h : Begun enclosing behind s t 3 (fuel + 1) fuel')
    (hs : readGroup (fuel + 1) verbose start opening s = .ok (i, s')) :
    Comes enclosing behind (Sound (allFit enclosing behind i.toList) s') s'
      (i.map Item.renumbered) (readGroup fuel' verbose start' opening.renumbered t) := by
  obtain ⟨fuel', rfl⟩ : ∃ n, fuel' = n + 1 := ⟨fuel' - 1, by have := h.more; omega⟩
  have henough := h.enough
  have hmore := Nat.le_of_succ_le_succ h.more
  have hbegun : Begun enclosing behind s t 2 fuel fuel' := ⟨h.toInside, h.none, by omega, hmore⟩
  cases opening with
  | comment =>
    rw [Regex.readGroup] at hs
    cases hs
    exact .ok h.toInside ⟨h.none, rfl⟩
  | flags =>
    rw [Regex.readGroup] at hs
    cases hs
    exact .ok h.toInside ⟨h.none, rfl⟩
  | reference index =>
    rw [Regex.readGroup] at hs
    cases hs
    exact .ok h.toInside ⟨h.none, rfl⟩
  | group name => exact ih.readGroup_group h hs
  | plain on off =>
    rw [Regex.readGroup] at hs
    obtain ⟨body, s₁, hbody, hs⟩ := exists_of_bind_ok hs
    obtain ⟨_, s₂, hclose, hs⟩ := exists_of_bind_ok hs
    cases hs
    show Comes _ _ _ _ _ (Regex.readGroup (fuel' + 1) verbose start' (.plain on off) t)
    rw [Regex.readGroup]
    exact (ih.body hbegun hbody hclose).wrapped hclose rfl rfl
  | atomic =>
    rw [Regex.readGroup] at hs
    obtain ⟨body, s₁, hbody, hs⟩ := exists_of_bind_ok hs
    obtain ⟨_, s₂, hclose, hs⟩ := exists_of_bind_ok hs
    cases hs
    show Comes _ _ _ _ _ (Regex.readGroup (fuel' + 1) verbose start' .atomic t)
    rw [Regex.readGroup]
    exact (ih.body hbegun hbody hclose).wrapped hclose rfl rfl
  | look ahead negated =>
    rw [Regex.readGroup] at hs
    obtain ⟨body, s₁, hbody, hs⟩ := exists_of_bind_ok hs
    obtain ⟨_, s₂, hclose, hs⟩ := exists_of_bind_ok hs
    cases hs
    show Comes _ _ _ _ _ (Regex.readGroup (fuel' + 1) verbose start' (.look ahead negated) t)
    rw [Regex.readGroup]
    have hleft := rest_ne_nil_of_expectClosing hclose
    refine (h.inLook (fun hinside hread hrest hflags hend => ?_) hbody).wrapped hclose rfl rfl
    refine ih.choice ⟨hinside, hflags.trans h.none, ?_, hmore⟩ (fun _ => hend ▸ hleft)
      (fun htop => absurd htop Bool.false_ne_true) hread
    rw [hrest]
    omega
  | conditional => exact ih.readGroup_conditional h hs

/-- **A choice that is read alone is read inside the frame if it is sound, and else is refused
there.** -/
theorem beside (fuel : Nat) : Beside fuel := by
  induction fuel with
  | zero =>
    refine ⟨fun h => ?_, fun h => ?_, fun h => ?_, fun h => ?_⟩
    · exact absurd h.enough (by omega)
    · exact absurd h.enough (by omega)
    · exact absurd h.enough (by omega)
    · exact absurd h.enough (by omega)
  | succ fuel ih => exact ⟨ih.readItems, ih.readGroup, ih.readChoice, ih.readAlternatives⟩

end QuasiGrammar.Regex
