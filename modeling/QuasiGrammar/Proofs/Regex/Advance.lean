import QuasiGrammar.Proofs.Regex.Local
import QuasiGrammar.Regex.Framed

/-
  QuasiGrammar.Proofs.Regex.Advance
  ─────────────────────────────────
  **The widths of an expression are those of its items, and its groups are
  numbered from the left.**

  A reader goes forward, and flags of the whole expression are only ever added
  (`Advances`).  What is not a capturing group leaves the table of widths and the
  number of the next group as they are (`Quiet`); so both can be told from the
  items that have been read (`Reads`, `Known`).  An expression that is read to its
  end holds no lone backslash.
-/

namespace QuasiGrammar.Regex

open Number Text

variable {α β : Type} {s s' s'' : Scan}

/-! ## §1. Going forward. -/

/-- The reader has gone forward, or stands where it stood. -/
structure Advances (s s' : Scan) : Prop where
  suffix : s'.rest <:+ s.rest
  /-- It does not come to stand before a lone backslash. -/
  settled : s.broken = true → s.rest ≠ [] → s'.rest ≠ []
  broken : s'.broken = s.broken
  flags : s.flags <+: s'.flags

theorem Advances.refl (s : Scan) : Advances s s :=
  ⟨List.suffix_rfl, fun _ h => h, rfl, List.prefix_rfl⟩

theorem Advances.trans (h : Advances s s') (h' : Advances s' s'') : Advances s s'' :=
  ⟨h'.suffix.trans h.suffix,
    fun hbroken hne => h'.settled (h.broken ▸ hbroken) (h.settled hbroken hne),
    h'.broken.trans h.broken, h.flags.trans h'.flags⟩

theorem Advances.length_le (h : Advances s s') : s'.rest.length ≤ s.rest.length :=
  h.suffix.length_le

/-- What is left at the end was left before. -/
theorem Advances.rest_ne_nil (h : Advances s s') (hleft : s'.rest ≠ []) : s.rest ≠ [] := by
  intro hnil
  have hsuffix := h.suffix
  rw [hnil] at hsuffix
  exact hleft (List.suffix_nil.1 hsuffix)

/-- Without flags at the end there were none before. -/
theorem Advances.flags_eq_nil (h : Advances s s') (hnone : s'.flags = []) : s.flags = [] := by
  have hprefix := h.flags
  rw [hnone] at hprefix
  exact List.prefix_nil.1 hprefix

/-- The reader has gone forward, and the table of widths, the number of the next group and the flags
are the same. -/
structure Quiet (s s' : Scan) : Prop extends Advances s s' where
  widths : s'.widths = s.widths
  next : s'.nextGroup = s.nextGroup
  same : s'.flags = s.flags

theorem Quiet.refl (s : Scan) : Quiet s s := ⟨.refl s, rfl, rfl, rfl⟩

theorem Quiet.trans (h : Quiet s s') (h' : Quiet s' s'') : Quiet s s'' :=
  ⟨h.toAdvances.trans h'.toAdvances, h'.widths.trans h.widths, h'.next.trans h.next,
    h'.same.trans h.same⟩

theorem Quiet.of_same (hrest : s'.rest = s.rest) (hbroken : s'.broken = s.broken)
    (hflags : s'.flags = s.flags) (hwidths : s'.widths = s.widths)
    (hnext : s'.nextGroup = s.nextGroup) : Quiet s s' :=
  ⟨⟨hrest ▸ List.suffix_rfl, fun _ hne => hrest ▸ hne, hbroken, hflags ▸ List.prefix_rfl⟩,
    hwidths, hnext, hflags⟩

theorem Moved.quiet (h : Moved s s') : Quiet s s' := by
  have hflags : s'.flags = s.flags := by rw [h.same]
  have hwidths : s'.widths = s.widths := by rw [h.same]
  have hnext : s'.nextGroup = s.nextGroup := by rw [h.same]
  exact ⟨⟨h.suffix, h.settled, h.broken, hflags ▸ List.prefix_rfl⟩, hwidths, hnext, hflags⟩

/-- A reader that leaves the table of widths, the number of the next group and the flags as they
are. -/
def Quietly (m : Read α) : Prop := ∀ s a s', m s = .ok (a, s') → Quiet s s'

namespace Quietly

theorem pure (a : α) : Quietly (Pure.pure a : Read α) := by
  intro s b s' h
  cases h
  exact .refl s

theorem of_fails {m : Read α} (h : Fails m) : Quietly m := by
  intro s a s' ha
  obtain ⟨r, hr⟩ := h s
  rw [hr] at ha
  cases ha

theorem failBack (cause : Cause) (back : Nat) : Quietly (failBack cause back : Read α) :=
  of_fails (fails_failBack cause back)

theorem bind {m : Read α} {f : α → Read β} (hm : Quietly m) (hf : ∀ a, Quietly (f a)) :
    Quietly (m >>= f) := by
  intro s b s' h
  obtain ⟨a, s₁, h₁, h₂⟩ := exists_of_bind_ok h
  exact (hm s a s₁ h₁).trans (hf a s₁ b s' h₂)

theorem get {f : Scan → Read α} (h : ∀ s, Quietly (f s)) : Quietly (MonadState.get >>= f) :=
  fun s a s' ha => h s s a s' ha

theorem ite {c : Prop} [Decidable c] {m n : Read α} (h : Quietly m) (h' : Quietly n) :
    Quietly (if c then m else n) := by
  by_cases hc : c
  · rw [if_pos hc]
    exact h
  · rw [if_neg hc]
    exact h'

theorem modify {f : Scan → Scan} (h : ∀ s, Quiet s (f s)) : Quietly (modify f) := by
  intro s u s' hu
  cases hu
  exact h s

/-- What reads the same in a longer text only moves. -/
theorem of_local {m : Read α} (h : ∀ s t, Extends s t → Agree s t m m) : Quietly m :=
  fun s a s' ha =>
    (h s { s with rest := s.rest ++ frameEnd, broken := false } ⟨rfl, rfl⟩ a s' ha).1.quiet

theorem skip (count : Nat) : Quietly (skip count) := fun _ _ _ h => (skip_ok h).2.quiet

theorem take : Quietly take := by
  unfold Regex.take
  refine bind (fun s a s' h => ?_) fun t => ?_
  · cases h
    exact .refl s
  · cases t with
    | none => exact pure none
    | some t => exact (skip 1).bind fun _ => pure _

theorem skipLine : Quietly skipLine := get fun _ => skip _

theorem checkLookbehind (index : Nat) : Quietly (checkLookbehind index) := by
  unfold Regex.checkLookbehind
  refine get fun s => ?_
  cases s.lookbehind with
  | none => exact pure ()
  | some first => exact ite (failBack _ _) (ite (failBack _ _) (pure ()))

theorem groupReference (ds : List Char) : Quietly (groupReference ds) := by
  unfold Regex.groupReference
  refine get fun s => ite (ite (failBack _ _) ?_) (failBack _ _)
  exact (checkLookbehind _).bind fun _ => pure _

theorem digitEscape (c : Char) : Quietly (digitEscape c) := by
  have hoct : ∀ limit, Quietly (takeKind limit isOctDigit) :=
    fun _ => of_local fun _ _ h => .takeKind h (by decide) rfl
  have hdigits : Quietly (takeKind 1 Char.isDigit) :=
    of_local fun _ _ h => .takeKind h (by decide) rfl
  have hoctal : ∀ ds, Quietly (octalEscape ds) := fun ds => of_local fun _ _ h => .octalEscape h ds
  unfold Regex.digitEscape
  refine ite ?_ (hdigits.bind fun ds => ?_)
  · exact (hoct 2).bind fun ds => (hoctal _).bind fun _ => pure _
  · cases ds with
    | nil => exact groupReference _
    | cons d ds =>
      refine ite ((hoct 1).bind fun third => ?_) (groupReference _)
      cases third with
      | nil => exact groupReference _
      | cons d third => exact (hoctal _).bind fun _ => pure _

theorem itemEscape (c : Char) : Quietly (itemEscape c) := by
  unfold Regex.itemEscape
  cases anchorEscape? c with
  | some a => exact pure _
  | none =>
    cases classEscape? c with
    | some m => exact pure _
    | none =>
      cases controlEscape? c with
      | some n => exact pure _
      | none =>
        cases hcode : codeEscape? c with
        | some code => exact (of_local fun _ _ h => .codeEscape h hcode).bind fun _ => pure _
        | none =>
          refine ite (digitEscape c) ?_
          exact (of_local fun _ _ h => .plainEscape h c).bind fun _ => pure _

theorem groupNamed (name : List Char) : Quietly (groupNamed name) := by
  unfold Regex.groupNamed
  refine get fun s => ?_
  cases s.names.lookup name with
  | some index => exact pure index
  | none => exact failBack _ _

theorem takeName (terminator : Char) (sort : String) : Quietly (takeName terminator sort) :=
  of_local fun _ _ h => .takeName h terminator sort

theorem checkName (name : List Char) : Quietly (checkName name) :=
  of_local fun _ _ h => .checkName h name

theorem namedReference : Quietly namedReference := by
  unfold Regex.namedReference
  refine (takeName _ _).bind fun name => (checkName name).bind fun _ => ?_
  refine (groupNamed name).bind fun index => get fun s => ite (failBack _ _) ?_
  exact (checkLookbehind index).bind fun _ => pure index

theorem conditionGroup : Quietly conditionGroup := by
  unfold Regex.conditionGroup
  refine (takeName _ _).bind fun name => ite ?_ ?_
  · exact (groupNamed name).bind fun _ => pure _
  · cases readInt 10 name with
    | error e => exact failBack _ _
    | ok i =>
      refine ite (failBack _ _) (ite (failBack _ _) (ite (failBack _ _) ?_))
      refine (modify fun s => ?_).bind fun _ => pure _
      split
      · exact .refl s
      · exact .of_same rfl rfl rfl rfl rfl

theorem accept {c : Char} (hc : c ≠ ')') : Quietly (accept c) :=
  of_local fun _ _ h => .accept h hc

theorem readNamed : Quietly readNamed := by
  unfold Regex.readNamed
  refine (accept (by decide)).bind fun angle => ite ?_ ?_
  · exact (takeName _ _).bind fun name => (checkName name).bind fun _ => pure _
  · refine (accept (by decide)).bind fun equals => ite ?_ ?_
    · exact namedReference.bind fun _ => pure _
    · refine take.bind fun t => ?_
      cases t with
      | none => exact failBack _ _
      | some t => exact failBack _ _

theorem expectClosing (start : Nat) : Quietly (expectClosing start) :=
  of_local fun _ _ h => .expectClosing h start start

theorem repeatLast (start low : Nat) (high : Option Nat) (acc : List Item) :
    Quietly (repeatLast start low high acc) := by
  unfold Regex.repeatLast
  cases acc with
  | nil => exact of_fails (fails_failAt _ _)
  | cons i before =>
    refine ite (of_fails (fails_failAt _ _)) (ite (of_fails (fails_failAt _ _)) ?_)
    exact (of_local fun _ _ h => .readGreed h).bind fun _ => pure _

end Quietly

/-- A group takes the next number, and is the first one to do so. -/
theorem openGroup_ok {name : Option (List Char)} {index : Nat}
    (h : openGroup name s = .ok (index, s')) :
    index = s.nextGroup ∧ s'.nextGroup = s.nextGroup + 1 ∧ s'.widths = s.widths ∧
      s'.flags = s.flags ∧ Advances s s' := by
  obtain ⟨_, _, hget, h⟩ := exists_of_bind_ok h
  cases hget
  cases name with
  | none =>
    cases h
    exact ⟨rfl, rfl, rfl, rfl, List.suffix_rfl, fun _ hne => hne, rfl, List.prefix_rfl⟩
  | some name =>
    cases hlookup : s.names.lookup name with
    | some first =>
      simp only [hlookup] at h
      cases h
    | none =>
      simp only [hlookup] at h
      cases h
      exact ⟨rfl, rfl, rfl, rfl, List.suffix_rfl, fun _ hne => hne, rfl, List.prefix_rfl⟩

/-! ## §2. Openings. -/

/-- A reader whose results have a property. -/
def Yields (P : α → Prop) (m : Read α) : Prop := ∀ s a s', m s = .ok (a, s') → P a

namespace Yields

variable {P : α → Prop}

theorem pure {a : α} (h : P a) : Yields P (Pure.pure a) := by
  intro s b s' hb
  cases hb
  exact h

theorem of_fails {m : Read α} (h : Fails m) : Yields P m := by
  intro s a s' ha
  obtain ⟨r, hr⟩ := h s
  rw [hr] at ha
  cases ha

theorem bind {m : Read β} {f : β → Read α} (h : ∀ b, Yields P (f b)) : Yields P (m >>= f) := by
  intro s a s' ha
  obtain ⟨b, s₁, -, hb⟩ := exists_of_bind_ok ha
  exact h b s₁ a s' hb

theorem ite {c : Prop} [Decidable c] {m n : Read α} (h : Yields P m) (h' : Yields P n) :
    Yields P (if c then m else n) := by
  by_cases hc : c
  · rw [if_pos hc]
    exact h
  · rw [if_neg hc]
    exact h'

end Yields

/-- Flags of the whole expression are added to those before; nothing else adds flags. -/
structure Opened (opening : Opening) (s s' : Scan) : Prop extends Advances s s' where
  widths : s'.widths = s.widths
  next : s'.nextGroup = s.nextGroup
  same : opening.isFlags = false → s'.flags = s.flags
  more : opening.isFlags = true → s'.flags ≠ []

theorem yields_flagsOn (fuel : Nat) (letter : Char) (acc : List Char) :
    Yields (fun p => p.1 ≠ []) (flagsOn fuel letter acc) := by
  induction fuel generalizing letter acc with
  | zero => exact .of_fails (fails_failBack _ _)
  | succ fuel ih =>
    have hne : (if acc.contains letter then acc else acc ++ [letter]) ≠ [] := by
      split
      · rintro rfl
        contradiction
      · exact List.append_ne_nil_of_right_ne_nil _ (List.cons_ne_nil _ _)
    unfold flagsOn
    refine .ite (.of_fails (fails_failBack _ _)) ?_
    refine .ite (.of_fails (fails_failBack _ _)) (.bind fun u => ?_)
    cases u with
    | none => exact .of_fails (fails_failBack _ _)
    | some u =>
      simp only
      split
      · exact .pure hne
      · exact ih _ _
      · exact .of_fails (fails_failBack _ _)

/-- Flags of the whole expression have at least one letter. -/
theorem ne_nil_of_readOn {fuel : Nat} {first : Char} {on : List Char}
    (h : readOn fuel first s = .ok ((on, ')'), s')) : on ≠ [] := by
  unfold readOn at h
  by_cases hminus : first = '-'
  · rw [if_pos hminus] at h
    cases h
  · rw [if_neg hminus] at h
    exact yields_flagsOn _ _ _ s _ s' h

theorem Quiet.opened {opening : Opening} (h : Quiet s s') (h' : Opened opening s' s'') :
    Opened opening s s'' :=
  ⟨h.toAdvances.trans h'.toAdvances, h'.widths.trans h.widths, h'.next.trans h.next,
    fun hnone => (h'.same hnone).trans h.same, h'.more⟩

/-- A reader of what an opening parenthesis stands for. -/
def Opens (m : Read Opening) : Prop := ∀ s opening s', m s = .ok (opening, s') → Opened opening s s'

namespace Opens

theorem pure {opening : Opening} (h : opening.isFlags = false) : Opens (Pure.pure opening) := by
  intro s o s' ho
  cases ho
  refine ⟨.refl s, rfl, rfl, fun _ => rfl, fun hflags => ?_⟩
  rw [h] at hflags
  cases hflags

theorem failBack (cause : Cause) (back : Nat) : Opens (failBack cause back) := nofun

theorem bind {m : Read α} {f : α → Read Opening} (hm : Quietly m) (hf : ∀ a, Opens (f a)) :
    Opens (m >>= f) := by
  intro s opening s' h
  obtain ⟨a, s₁, h₁, h₂⟩ := exists_of_bind_ok h
  exact (hm s a s₁ h₁).opened (hf a s₁ opening s' h₂)

theorem ite {c : Prop} [Decidable c] {m n : Read Opening} (h : Opens m) (h' : Opens n) :
    Opens (if c then m else n) := by
  by_cases hc : c
  · rw [if_pos hc]
    exact h
  · rw [if_neg hc]
    exact h'

theorem readNamed : Opens readNamed := by
  unfold Regex.readNamed
  refine .bind (.accept (by decide)) fun angle => .ite ?_ ?_
  · exact .bind (.takeName _ _) fun name => .bind (.checkName name) fun _ => .pure rfl
  · refine .bind (.accept (by decide)) fun equals => .ite ?_ ?_
    · exact .bind .namedReference fun _ => .pure rfl
    · refine .bind .take fun t => ?_
      cases t with
      | none => exact .failBack _ _
      | some t => exact .failBack _ _

theorem readLookbehind : Opens readLookbehind := by
  unfold Regex.readLookbehind
  refine .bind .take fun t => ?_
  split
  · exact .failBack _ _
  · exact .pure rfl
  · exact .pure rfl
  · exact .failBack _ _

theorem readFlags (first : Char) : Opens (readFlags first) := by
  have hon : ∀ fuel, Quietly (readOn fuel first) :=
    fun _ => .of_local fun _ _ h => .readOn (Nat.le_refl _) h first
  have hoff : ∀ fuel stop, Quietly (readOff fuel stop) :=
    fun _ stop => .of_local fun _ _ h => .readOff (Nat.le_refl _) h stop
  intro s opening s' h
  obtain ⟨_, _, hget, h⟩ := exists_of_bind_ok h
  cases hget
  obtain ⟨⟨on, stop⟩, s₁, hread, h⟩ := exists_of_bind_ok h
  refine (hon _ s _ s₁ hread).opened ?_
  by_cases hstop : stop = ')'
  · subst hstop
    cases h
    refine ⟨⟨List.suffix_rfl, fun _ hne => hne, rfl, List.prefix_append _ _⟩, rfl, rfl, nofun,
      fun _ => ?_⟩
    exact List.append_ne_nil_of_right_ne_nil _ (ne_nil_of_readOn hread)
  · simp only [if_neg hstop] at h
    refine (?_ : Opens _) s₁ opening s' h
    refine .ite (.failBack _ _) (.bind (hoff _ stop) fun off => ?_)
    exact .ite (.failBack _ _) (.ite (.failBack _ _) (.pure rfl))

theorem readOpening (start : Nat) : Opens (readOpening start) := by
  unfold Regex.readOpening
  refine .bind (.accept (by decide)) fun mark => .ite (.bind .take fun t => ?_) (.pure rfl)
  split
  · exact .failBack _ _
  · exact readNamed
  · exact .pure rfl
  · exact .bind (.of_local fun _ _ h => .skipComment h start start) fun _ => .pure rfl
  · exact .pure rfl
  · exact .pure rfl
  · exact readLookbehind
  · exact .pure rfl
  · exact .pure rfl
  · split
    · exact .failBack _ _
    · exact readFlags _

end Opens

/-! ## §3. What has been read. -/

/-- Groups are numbered one after another, from a first number up to the one before the next. -/
structure Numbered (first : Nat) (numbers : List Nat) (next : Nat) : Prop where
  next : next = first + numbers.length
  eq : numbers = List.range' first numbers.length

namespace Numbered

variable {first mid next : Nat} {ns ms : List Nat}

theorem nil (n : Nat) : Numbered n [] n := ⟨rfl, rfl⟩

theorem append (h : Numbered first ns mid) (h' : Numbered mid ms next) :
    Numbered first (ns ++ ms) next := by
  constructor
  · rw [h'.next, h.next, List.length_append, Nat.add_assoc]
  · have hms := h'.eq
    rw [h.next] at hms
    rw [List.length_append, ← List.range'_append_1, ← hms, ← h.eq]

theorem single (n : Nat) : Numbered n [n] (n + 1) := ⟨rfl, rfl⟩

theorem cons (h : Numbered (first + 1) ns next) : Numbered first (first :: ns) next :=
  (single first).append h

end Numbered

/-- Items are read: the table of widths grows by theirs, and their groups have the numbers that come
next. -/
structure Reads (s s' : Scan) (items : List Item) : Prop extends Advances s s' where
  widths : s'.widths = allMeasured s.widths items
  numbers : Numbered s.nextGroup (allNumbers items) s'.nextGroup

namespace Reads

variable {items more : List Item}

theorem quiet (h : Quiet s s') : Reads s s' [] :=
  ⟨h.toAdvances, h.widths, h.next ▸ .nil _⟩

theorem append (h : Reads s s' items) (h' : Reads s' s'' more) : Reads s s'' (items ++ more) := by
  refine ⟨h.toAdvances.trans h'.toAdvances, ?_, ?_⟩
  · rw [allMeasured_append, ← h.widths, h'.widths]
  · rw [allNumbers_append]
    exact h.numbers.append h'.numbers

theorem after (h : Quiet s s') (h' : Reads s' s'' items) : Reads s s'' items :=
  append (quiet h) h'

theorem andThen (h : Reads s s' items) (h' : Quiet s' s'') : Reads s s'' items := by
  rw [← List.append_nil items]
  exact h.append (quiet h')

/-- Only the widths and the numbers of the items count. -/
theorem congr (h : Reads s s' items)
    (hwidths : ∀ table, allMeasured table more = allMeasured table items)
    (hnumbers : allNumbers more = allNumbers items) : Reads s s' more :=
  ⟨h.toAdvances, (hwidths s.widths).symm ▸ h.widths, hnumbers ▸ h.numbers⟩

/-- An item with the widths and the numbers of these items is read. -/
theorem group {i : Item} (h : Reads s s' items)
    (hwidths : ∀ table, i.measured table = allMeasured table items)
    (hnumbers : i.numbers = allNumbers items) : Reads s s' [i] := by
  refine h.congr hwidths ?_
  rw [← hnumbers]
  exact List.append_nil _

/-- A sequence before a choice is one more alternative, as far as widths and numbers go. -/
theorem branch {tail : List (List Item)} (h : Reads s s' (items ++ [.branch tail])) :
    Reads s s' [.branch (items :: tail)] := by
  refine h.congr (fun table => ?_) ?_
  · rw [allMeasured_append]
    rfl
  · rw [allNumbers_append]
    show (allNumbers items ++ eachNumbers tail) ++ [] = allNumbers items ++ (eachNumbers tail ++ [])
    rw [List.append_assoc]

end Reads

/-- Items that are read after others: those were in order if these are, and together with what came
before both, these are read if those were.  The latest of the items before comes first. -/
structure Grows (s s' : Scan) (acc acc' : List Item) : Prop extends Advances s s' where
  fits : ∀ enclosing behind,
    allFit enclosing behind acc' = true → allFit enclosing behind acc = true
  reads : ∀ {start}, Reads start s acc.reverse → Reads start s' acc'.reverse

namespace Grows

variable {acc acc' acc'' : List Item}

theorem trans (h : Grows s s' acc acc') (h' : Grows s' s'' acc' acc'') : Grows s s'' acc acc'' :=
  ⟨h.toAdvances.trans h'.toAdvances, fun e b hfit => h.fits e b (h'.fits e b hfit),
    fun hs => h'.reads (h.reads hs)⟩

/-- One more item, or none, is read. -/
theorem item {i : Option Item} (h : Reads s s' i.toList) : Grows s s' acc (i.toList ++ acc) := by
  refine ⟨h.toAdvances, fun e b hfit => ?_, fun hs => ?_⟩
  · rw [allFit_append, Bool.and_eq_true] at hfit
    exact hfit.2
  · have hreverse : i.toList.reverse = i.toList := by cases i <;> rfl
    rw [List.reverse_append, hreverse]
    exact hs.append h

theorem quiet (h : Quiet s s') : Grows s s' acc acc := item (i := none) (.quiet h)

end Grows

/-- A sign of repetition turns the latest item into one that repeats it. -/
theorem repeatLast_ok {start low : Nat} {high : Option Nat} {acc acc' : List Item}
    (h : repeatLast start low high acc s = .ok (acc', s')) :
    ∃ i before greed, acc = i :: before ∧ i.isAnchor = false ∧ i.isRepetition = false ∧
      readGreed s = .ok (greed, s') ∧ acc' = .repetition greed low high (repeated i) :: before := by
  cases acc with
  | nil => cases h
  | cons i before =>
    simp only [repeatLast] at h
    by_cases hanchor : i.isAnchor = true
    · rw [if_pos hanchor] at h
      cases h
    · by_cases hrepetition : i.isRepetition = true
      · rw [if_neg hanchor, if_pos hrepetition] at h
        cases h
      · rw [if_neg hanchor, if_neg hrepetition] at h
        obtain ⟨greed, s₁, hgreed, h⟩ := exists_of_bind_ok h
        cases h
        exact ⟨i, before, greed, rfl, Bool.eq_false_iff.2 hanchor, Bool.eq_false_iff.2 hrepetition,
          hgreed, rfl⟩

theorem grows_repeatLast {start low : Nat} {high : Option Nat} {acc acc' : List Item}
    (h : repeatLast start low high acc s = .ok (acc', s')) : Grows s s' acc acc' := by
  have hquiet := Quietly.repeatLast start low high acc s acc' s' h
  obtain ⟨i, before, greed, rfl, -, -, -, rfl⟩ := repeatLast_ok h
  refine ⟨hquiet.toAdvances, fun e b hfit => ?_, fun hs => ?_⟩
  · rw [allFit, Item.fits, allFit_repeated] at hfit
    rw [allFit]
    exact hfit
  · -- The repetition has the groups of the item under it, which has been read.
    refine (hs.andThen hquiet).congr (fun table => ?_) ?_
    · rw [List.reverse_cons, List.reverse_cons, allMeasured_append, allMeasured_append, allMeasured,
        allMeasured, allMeasured, Item.measured, allMeasured_repeated]
      rfl
    · rw [List.reverse_cons, List.reverse_cons, allNumbers_append, allNumbers_append, allNumbers,
        allNumbers, Item.numbers, allNumbers_repeated, allNumbers, allNumbers]

/-- What holds of everything that is read with so many steps. -/
structure Known (fuel : Nat) : Prop where
  items : ∀ {verbose first acc s items s'}, readItems fuel verbose first acc s = .ok (items, s') →
    Grows s s' acc items.reverse
  group : ∀ {verbose start opening s i s'},
    readGroup fuel verbose start opening s = .ok (i, s') →
      Reads s s' i.toList
  choice : ∀ {verbose top s items s'}, readChoice fuel verbose top s = .ok (items, s') →
    Reads s s' items
  alternatives : ∀ {verbose top s alternatives s'},
    readAlternatives fuel verbose top s = .ok (alternatives, s') →
      Reads s s' [.branch alternatives]

/-! ## §4. Tokens. -/

/-- An item that holds no group that captures. -/
structure Bare (i : Item) : Prop where
  widths : ∀ table, i.measured table = table
  numbers : i.numbers = []

theorem Grows.bare {acc : List Item} {i : Item} (h : Quiet s s') (hi : Bare i) :
    Grows s s' acc (i :: acc) := .item (i := some i) ((Reads.quiet h).group hi.widths hi.numbers)

theorem yields_groupReference (ds : List Char) : Yields Bare (groupReference ds) := by
  unfold groupReference
  refine .bind fun s => .ite (.ite (.of_fails (fails_failBack _ _)) ?_)
    (.of_fails (fails_failBack _ _))
  exact .bind fun _ => .pure ⟨fun _ => rfl, rfl⟩

theorem yields_digitEscape (c : Char) : Yields Bare (digitEscape c) := by
  unfold digitEscape
  refine .ite (.bind fun ds => .bind fun n => .pure ⟨fun _ => rfl, rfl⟩) (.bind fun ds => ?_)
  cases ds with
  | nil => exact yields_groupReference _
  | cons d ds =>
    refine .ite (.bind fun third => ?_) (yields_groupReference _)
    cases third with
    | nil => exact yields_groupReference _
    | cons d third => exact .bind fun n => .pure ⟨fun _ => rfl, rfl⟩

theorem yields_itemEscape (c : Char) : Yields Bare (itemEscape c) := by
  unfold itemEscape
  split
  · exact .pure ⟨fun _ => rfl, rfl⟩
  · exact .pure ⟨fun _ => rfl, rfl⟩
  · exact .pure ⟨fun _ => rfl, rfl⟩
  · exact .bind fun n => .pure ⟨fun _ => rfl, rfl⟩
  · exact .ite (yields_digitEscape c) (.bind fun n => .pure ⟨fun _ => rfl, rfl⟩)

theorem yields_readSet :
    Yields (fun i => ∃ negated members, i = .set negated members) readSet := by
  unfold readSet
  exact .bind fun _ => .bind fun _ => .bind fun _ => .bind fun _ => .pure ⟨_, _, rfl⟩

/-- A reader that adds to items, the latest of which comes first. -/
def Adds (acc : List Item) (m : Read (Bool × List Item)) : Prop :=
  ∀ s p s', m s = .ok (p, s') → Grows s s' acc p.2

namespace Adds

variable {acc : List Item}

theorem pure (verbose : Bool) : Adds acc (Pure.pure (verbose, acc)) := by
  intro s p s' h
  cases h
  exact .quiet (.refl s)

theorem plain (verbose : Bool) {i : Item} (hi : Bare i) :
    Adds acc (Pure.pure (verbose, i :: acc)) := by
  intro s p s' h
  cases h
  exact .bare (.refl s) hi

theorem bind {m : Read α} {f : α → Read (Bool × List Item)} (hm : Quietly m)
    (hf : ∀ a, Adds acc (f a)) : Adds acc (m >>= f) := by
  intro s p s' h
  obtain ⟨a, s₁, h₁, h₂⟩ := exists_of_bind_ok h
  exact (Grows.quiet (hm s a s₁ h₁)).trans (hf a s₁ p s' h₂)

/-- One bare item is read. -/
theorem bare {m : Read Item} {verbose : Bool} (hm : Quietly m) (hbare : Yields Bare m) :
    Adds acc (m >>= fun i => Pure.pure (verbose, i :: acc)) := by
  intro s p s' h
  obtain ⟨i, s₁, h₁, h₂⟩ := exists_of_bind_ok h
  cases h₂
  exact .bare (hm s i _ h₁) (hbare s i _ h₁)

end Adds

theorem adds_readRepetition (verbose : Bool) (c : Char) (start : Nat) (acc : List Item) :
    Adds acc (readRepetition c start acc >>= fun acc' => pure (verbose, acc')) := by
  intro s p s' h
  obtain ⟨acc', s₁, hrepetition, h⟩ := exists_of_bind_ok h
  cases h
  obtain ⟨bounds, s₂, hbounds, hlast⟩ := exists_of_bind_ok hrepetition
  have hquiet : Quiet s s₂ := Quietly.of_local (fun _ _ h => .readQuantifier h c) s _ s₂ hbounds
  cases bounds with
  | none =>
    cases hlast
    exact .bare hquiet ⟨fun _ => rfl, rfl⟩
  | some bounds => exact (Grows.quiet hquiet).trans (grows_repeatLast hlast)

section

variable {group : Opening → Read (Option Item)}
  (hgroup : ∀ {opening s i s'}, group opening s = .ok (i, s') → Reads s s' i.toList)
  (verbose first : Bool) (start : Nat) (acc : List Item)

include hgroup

theorem adds_readParenthesis : Adds acc (readParenthesis group verbose first start acc) := by
  intro s p s' h
  obtain ⟨opening, s₁, hopening, h⟩ := exists_of_bind_ok h
  have hopened := Opens.readOpening start s opening s₁ hopening
  have hreads : Reads s s₁ [] := ⟨hopened.toAdvances, hopened.widths, hopened.next ▸ .nil _⟩
  refine (Grows.item (i := none) hreads).trans ?_
  by_cases hflags : opening.isFlags = true
  · rw [if_pos hflags] at h
    by_cases hfirst : (first && acc.isEmpty) = true
    · rw [if_pos hfirst] at h
      cases h
      exact .quiet (.refl _)
    · rw [if_neg hfirst] at h
      cases h
  · rw [if_neg hflags] at h
    obtain ⟨i, s₂, hi, h⟩ := exists_of_bind_ok h
    cases h
    exact .item (hgroup hi)

/-- What a token adds to the items before it. -/
theorem adds_readToken (t : Token) : Adds acc (readToken group verbose first start acc t) := by
  cases t with
  | escaped c => exact .bare (Quietly.itemEscape c) (yields_itemEscape c)
  | plain c =>
    simp only [readToken]
    split
    · exact .pure verbose
    · split
      · exact .bind Quietly.skipLine fun _ => .pure verbose
      · split
        · exact .plain verbose ⟨fun _ => rfl, rfl⟩
        · exact .plain verbose ⟨fun _ => rfl, rfl⟩
        · exact .plain verbose ⟨fun _ => rfl, rfl⟩
        · refine .bare (Quietly.of_local fun _ _ h => .readSet h) fun s i s' hi => ?_
          obtain ⟨_, _, rfl⟩ := yields_readSet s i s' hi
          exact ⟨fun _ => rfl, rfl⟩
        · exact adds_readParenthesis hgroup verbose first start acc
        · exact adds_readRepetition verbose _ start acc
        · exact adds_readRepetition verbose _ start acc
        · exact adds_readRepetition verbose _ start acc
        · exact adds_readRepetition verbose _ start acc
        · exact .plain verbose ⟨fun _ => rfl, rfl⟩

end

/-! ## §5. Sequences and choices. -/

/-- Inside a lookahead or lookbehind the reader knows as much as outside, but for where it is. -/
theorem exists_of_inLook_ok {ahead : Bool} {body : Read α} {a : α}
    (h : inLook ahead body s = .ok (a, s')) :
    ∃ s₁ s₂, body s₁ = .ok (a, s₂) ∧ Quiet s s₁ ∧ Quiet s₂ s' := by
  obtain ⟨_, _, hget, h⟩ := exists_of_bind_ok h
  cases hget
  by_cases houter : (!ahead && s.lookbehind.isNone) = true
  · rw [if_pos houter] at h
    obtain ⟨_, s₁, hset, h⟩ := exists_of_bind_ok h
    cases hset
    obtain ⟨b, s₂, hbody, h⟩ := exists_of_bind_ok h
    cases h
    exact ⟨_, s₂, hbody, .of_same rfl rfl rfl rfl rfl, .of_same rfl rfl rfl rfl rfl⟩
  · rw [if_neg houter] at h
    exact ⟨s, s', h, .refl s, .refl s'⟩

variable {fuel : Nat}

theorem Known.readItems (h : Known fuel) {verbose first : Bool} {acc items : List Item}
    (hs : readItems (fuel + 1) verbose first acc s = .ok (items, s')) :
    Grows s s' acc items.reverse := by
  have hend : ∀ {items : List Item}, (pure acc.reverse : Read (List Item)) s = .ok (items, s') →
      Grows s s' acc items.reverse := by
    intro items hpure
    cases hpure
    rw [List.reverse_reverse]
    exact .quiet (.refl s)
  rw [Regex.readItems, peek_bind] at hs
  generalize s.rest.head? = next at hs
  split at hs
  · exact hend hs
  · exact hend hs
  · exact hend hs
  · obtain ⟨_, _, hget, hs⟩ := exists_of_bind_ok hs
    cases hget
    obtain ⟨_, s₁, hskip, hs⟩ := exists_of_bind_ok hs
    obtain ⟨p, s₂, htoken, hs⟩ := exists_of_bind_ok hs
    have hadds := adds_readToken h.group _ _ _ _ _ s₁ p s₂ htoken
    exact ((Grows.quiet (Quietly.skip 1 _ _ _ hskip)).trans hadds).trans (h.items hs)

/-- A sequence and its items. -/
theorem Known.sequence (h : Known fuel) {verbose first : Bool} {items : List Item}
    (hs : Regex.readItems fuel verbose first [] s = .ok (items, s')) : Reads s s' items := by
  have hreads := (h.items hs).reads (.quiet (.refl s))
  rwa [List.reverse_reverse] at hreads

theorem Known.readChoice (h : Known fuel) {verbose top : Bool} {items : List Item}
    (hs : readChoice (fuel + 1) verbose top s = .ok (items, s')) : Reads s s' items := by
  rw [Regex.readChoice] at hs
  obtain ⟨head, s₁, hhead, hs⟩ := exists_of_bind_ok hs
  obtain ⟨tail, s₂, htail, hs⟩ := exists_of_bind_ok hs
  have hreads := (h.sequence hhead).append (h.alternatives htail)
  by_cases hnone : tail.isEmpty = true
  · rw [if_pos hnone] at hs
    cases hs
    rw [List.isEmpty_iff.1 hnone] at hreads
    refine hreads.congr (fun table => ?_) ?_
    · rw [allMeasured_append]
      rfl
    · rw [allNumbers_append]
      exact (List.append_nil _).symm
  · rw [if_neg hnone] at hs
    cases hs
    exact hreads.branch

theorem Known.readAlternatives (h : Known fuel) {verbose top : Bool}
    {alternatives : List (List Item)}
    (hs : readAlternatives (fuel + 1) verbose top s = .ok (alternatives, s')) :
    Reads s s' [.branch alternatives] := by
  rw [Regex.readAlternatives] at hs
  obtain ⟨bar, s₁, hbar, hs⟩ := exists_of_bind_ok hs
  have hquiet : Quiet s s₁ := Quietly.accept (by decide) s bar s₁ hbar
  cases bar with
  | false =>
    cases hs
    exact (Reads.quiet hquiet).congr (fun _ => rfl) rfl
  | true =>
    obtain ⟨_, _, hget, hs⟩ := exists_of_bind_ok hs
    cases hget
    obtain ⟨head, s₂, hhead, hs⟩ := exists_of_bind_ok hs
    obtain ⟨tail, s₃, htail, hs⟩ := exists_of_bind_ok hs
    cases hs
    exact (((h.sequence hhead).append (h.alternatives htail)).after hquiet).branch

/-- A body and the parenthesis that closes it. -/
theorem Known.body (h : Known fuel) {verbose : Bool} {start : Nat} {items : List Item} {u : Unit}
    (hbody : Regex.readChoice fuel verbose false s = .ok (items, s'))
    (hclose : expectClosing start s' = .ok (u, s'')) : Reads s s'' items :=
  (h.choice hbody).andThen (Quietly.expectClosing start s' u s'' hclose)

/-- The second sequence of a condition. -/
theorem Known.afterBar (h : Known fuel) {verbose : Bool} {items : List Item}
    (hs : afterBar (Regex.readItems fuel verbose false []) s = .ok (items, s')) :
    Reads s s' items := by
  obtain ⟨bar, s₁, hbar, hs⟩ := exists_of_bind_ok hs
  have hquiet : Quiet s s₁ := Quietly.accept (by decide) s bar s₁ hbar
  cases bar with
  | false =>
    cases hs
    exact .quiet hquiet
  | true =>
    obtain ⟨no, s₂, hno, hs⟩ := exists_of_bind_ok hs
    rw [peek_bind] at hs
    by_cases hmore : s₂.rest.head? = some (.plain '|')
    · rw [if_pos hmore] at hs
      cases hs
    · rw [if_neg hmore] at hs
      cases hs
      exact (h.sequence hno).after hquiet

/-- A group that captures takes the next number, and closes after its body. -/
theorem Known.capturing (h : Known fuel) {verbose : Bool} {start index : Nat}
    {name : Option (List Char)} {body : List Item} {s₁ s₂ s₃ : Scan} {u u' : Unit}
    (hopen : openGroup name s = .ok (index, s₁))
    (hbody : Regex.readChoice fuel verbose false s₁ = .ok (body, s₂))
    (hclose : expectClosing start s₂ = .ok (u, s₃))
    (hclosed : closeGroup index body s₃ = .ok (u', s')) :
    Reads s s' [.group (some index) [] [] body] := by
  obtain ⟨rfl, hnext, hwidths, -, hadvances⟩ := openGroup_ok hopen
  have hreads := h.body hbody hclose
  have hnumbers := hreads.numbers
  cases hclosed
  refine ⟨(hadvances.trans hreads.toAdvances).trans ?_, ?_, ?_⟩
  · exact ⟨List.suffix_rfl, fun _ hne => hne, rfl, List.prefix_rfl⟩
  · show (s.nextGroup, widthOf s₃.groupWidth body) :: s₃.widths = _
    have hsame : s₃.groupWidth = widthIn s₃.widths := rfl
    rw [hsame, hreads.widths, hwidths]
    rfl
  · rw [hnext] at hnumbers
    show Numbered s.nextGroup ((s.nextGroup :: allNumbers body) ++ []) s₃.nextGroup
    rw [List.append_nil]
    exact hnumbers.cons

theorem Known.readGroup (h : Known fuel) {verbose : Bool} {start : Nat} {opening : Opening}
    {i : Option Item} (hs : readGroup (fuel + 1) verbose start opening s = .ok (i, s')) :
    Reads s s' i.toList := by
  -- A group without a number of its own counts for the items in it alone.
  cases opening with
  | comment =>
    rw [Regex.readGroup] at hs
    cases hs
    exact .quiet (.refl s)
  | flags =>
    rw [Regex.readGroup] at hs
    cases hs
    exact .quiet (.refl s)
  | reference index =>
    rw [Regex.readGroup] at hs
    cases hs
    exact (Reads.quiet (.refl s)).group (fun _ => rfl) rfl
  | group name =>
    rw [Regex.readGroup] at hs
    obtain ⟨index, s₁, hopen, hs⟩ := exists_of_bind_ok hs
    obtain ⟨body, s₂, hbody, hs⟩ := exists_of_bind_ok hs
    obtain ⟨_, s₃, hclose, hs⟩ := exists_of_bind_ok hs
    obtain ⟨_, s₄, hclosed, hs⟩ := exists_of_bind_ok hs
    cases hs
    exact h.capturing hopen hbody hclose hclosed
  | plain on off =>
    rw [Regex.readGroup] at hs
    obtain ⟨body, s₁, hbody, hs⟩ := exists_of_bind_ok hs
    obtain ⟨_, s₂, hclose, hs⟩ := exists_of_bind_ok hs
    cases hs
    exact (h.body hbody hclose).group (fun _ => rfl) rfl
  | atomic =>
    rw [Regex.readGroup] at hs
    obtain ⟨body, s₁, hbody, hs⟩ := exists_of_bind_ok hs
    obtain ⟨_, s₂, hclose, hs⟩ := exists_of_bind_ok hs
    cases hs
    exact (h.body hbody hclose).group (fun _ => rfl) rfl
  | look ahead negated =>
    rw [Regex.readGroup] at hs
    obtain ⟨body, s₁, hlook, hs⟩ := exists_of_bind_ok hs
    obtain ⟨_, s₂, hclose, hs⟩ := exists_of_bind_ok hs
    cases hs
    obtain ⟨s₃, s₄, hbody, hquiet₁, hquiet₂⟩ := exists_of_inLook_ok hlook
    have hquiet₃ := Quietly.expectClosing start s₁ _ _ hclose
    exact (((h.choice hbody).after hquiet₁).andThen (hquiet₂.trans hquiet₃)).group
      (fun _ => rfl) rfl
  | conditional =>
    rw [Regex.readGroup] at hs
    obtain ⟨⟨index, named⟩, s₁, hgroup, hs⟩ := exists_of_bind_ok hs
    obtain ⟨_, s₂, hcheck, hs⟩ := exists_of_bind_ok hs
    obtain ⟨yes, s₃, hyes, hs⟩ := exists_of_bind_ok hs
    obtain ⟨no, s₄, hno, hs⟩ := exists_of_bind_ok hs
    obtain ⟨_, s₅, hclose, hs⟩ := exists_of_bind_ok hs
    cases hs
    have hquiet := (Quietly.conditionGroup s _ s₁ hgroup).trans
      (Quietly.checkLookbehind index s₁ _ s₂ hcheck)
    have hreads := (((h.sequence hyes).append (h.afterBar hno)).after hquiet).andThen
      (Quietly.expectClosing start s₄ _ _ hclose)
    refine hreads.group (fun table => ?_) ?_
    · rw [allMeasured_append]
      rfl
    · rw [allNumbers_append]
      rfl

theorem known (fuel : Nat) : Known fuel := by
  induction fuel with
  | zero =>
    refine ⟨fun {verbose first acc s items s'} hs => ?_, fun hs => ?_, fun hs => ?_, fun hs => ?_⟩
    · rw [Regex.readItems] at hs
      cases hs
      rw [List.reverse_reverse]
      exact .quiet (.refl s)
    · rw [Regex.readGroup] at hs
      cases hs
    · rw [Regex.readChoice] at hs
      cases hs
      exact .quiet (.refl _)
    · rw [Regex.readAlternatives] at hs
      cases hs
      exact (Reads.quiet (.refl _)).congr (fun _ => rfl) rfl
  | succ fuel ih => exact ⟨ih.readItems, ih.readGroup, ih.readChoice, ih.readAlternatives⟩

/-! ## §6. Expressions. -/

/-- The reader at the end of an expression that is read well. -/
structure Ended (e : Expression) (s : Scan) : Prop where
  rest : s.rest = []
  types : (s.flags.contains 'a' && s.flags.contains 'u') = false
  conditions : danglingCondition? s = none
  expression : e = ⟨e.items, s.widths, s.flags, s.nextGroup⟩

theorem finish_ok_iff {items : List Item} {e : Expression} :
    finish items s = .ok (e, s') ↔ s' = s ∧ e.items = items ∧ Ended e s := by
  unfold finish
  rw [get_bind]
  by_cases htypes : (s.flags.contains 'a' && s.flags.contains 'u') = true
  · rw [if_pos htypes]
    refine ⟨nofun, fun h => ?_⟩
    rw [h.2.2.types] at htypes
    cases htypes
  · by_cases hrest : (!s.rest.isEmpty) = true
    · rw [if_neg htypes, if_pos hrest]
      refine ⟨nofun, fun h => ?_⟩
      rw [h.2.2.rest] at hrest
      cases hrest
    · have hnil : s.rest = [] := by simpa using hrest
      rw [if_neg htypes, if_neg hrest]
      cases hdangling : danglingCondition? s with
      | some condition =>
        refine ⟨nofun, fun h => ?_⟩
        rw [h.2.2.conditions] at hdangling
        cases hdangling
      | none =>
        constructor
        · intro h
          cases h
          exact ⟨rfl, rfl, hnil, Bool.eq_false_iff.2 htypes, hdangling, rfl⟩
        · rintro ⟨rfl, rfl, hended⟩
          show Except.ok ((⟨e.items, s'.widths, s'.flags, s'.nextGroup⟩ : Expression), s') = _
          rw [← hended.expression]

/-- An expression is a choice that is read to the end, and in order as a whole. -/
theorem parse_ok_iff {source : List Char} {e : Expression} :
    parse source = .ok e ↔
      settle (Scan.start source) = .ok ((), Scan.start source) ∧
        ∃ s', readChoice (4 * source.length + 8) false true (Scan.start source) =
          .ok (e.items, s') ∧ Ended e s' := by
  have hrun : parse source = .ok e ↔
      ∃ s', readExpression (4 * source.length + 8) (Scan.start source) = .ok (e, s') := by
    show (Prod.fst <$> readExpression (4 * source.length + 8) (Scan.start source)) = _ ↔ _
    cases readExpression (4 * source.length + 8) (Scan.start source) with
    | error r => exact ⟨nofun, nofun⟩
    | ok p =>
      constructor
      · intro h
        cases h
        exact ⟨p.2, rfl⟩
      · rintro ⟨s', h⟩
        cases h
        rfl
  rw [hrun]
  constructor
  · rintro ⟨s', h⟩
    obtain ⟨_, s₁, hsettle, h⟩ := exists_of_bind_ok h
    obtain ⟨items, s₂, hchoice, h⟩ := exists_of_bind_ok h
    obtain ⟨rfl, rfl, hended⟩ := finish_ok_iff.1 h
    obtain ⟨rfl, -⟩ := settle_ok hsettle
    exact ⟨hsettle, s', hchoice, hended⟩
  · rintro ⟨hsettle, s', hchoice, hended⟩
    refine ⟨s', ?_⟩
    rw [readExpression, bind_of_ok hsettle, bind_of_ok hchoice]
    exact finish_ok_iff.2 ⟨rfl, rfl, hended⟩

/-- No lone backslash is left in an expression that is read well. -/
theorem whole_of_parse {source : List Char} {e : Expression} (h : parse source = .ok e) :
    (Scan.start source).broken = false := by
  obtain ⟨hsettle, s', hchoice, hended⟩ := parse_ok_iff.1 h
  have hadvances := ((known _).choice hchoice).toAdvances
  rw [Bool.eq_false_iff]
  intro hbroken
  by_cases hnil : (Scan.start source).rest = []
  · exact (settle_ok hsettle).2 ⟨hnil, hbroken⟩
  · exact hadvances.settled hbroken hnil hended.rest

/-- **The widths of an expression are those of its items.** -/
theorem widths_of_parse {source : List Char} {e : Expression} (h : parse source = .ok e) :
    e.widths = allMeasured [] e.items := by
  obtain ⟨-, s', hchoice, hended⟩ := parse_ok_iff.1 h
  rw [hended.expression]
  exact ((known _).choice hchoice).widths

/-- **The groups of an expression are numbered from the left, from one on.** -/
theorem numbers_of_parse {source : List Char} {e : Expression} (h : parse source = .ok e) :
    Numbered 1 (allNumbers e.items) e.nextGroup := by
  obtain ⟨-, s', hchoice, hended⟩ := parse_ok_iff.1 h
  rw [hended.expression]
  exact ((known _).choice hchoice).numbers

end QuasiGrammar.Regex
