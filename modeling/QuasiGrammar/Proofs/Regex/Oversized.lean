import Mathlib.Algebra.Group.Nat.Defs
import Mathlib.Data.List.TakeWhile
import QuasiGrammar.Proofs.Regex.Advance

/-
  QuasiGrammar.Proofs.Regex.Oversized
  ───────────────────────────────────
  **A reader breaks down on a number that is too large, and on nothing else.**

  Whatever else is wrong with an expression is a fault, which refuses it.  A reader
  that breaks down has come to one of two things in the expression (`Oversized`):
  bounds in braces of which one is beyond what an engine can count, or an escape
  by eight hexadecimal digits beyond what it can take for a code point.

  One property is kept by every step (`InSight`): of the tokens in sight, which are
  those that it has just taken and all that are left, the reader leaves an end, or
  it breaks down on something among them.
-/

namespace QuasiGrammar.Regex

open Number Text

variable {α β : Type} {s s' : Scan} {d : Defect} {taken ts ts' : List Token}

/-! ## §1. What is too large. -/

/-- The tokens of plain characters. -/
def plainTokens (cs : List Char) : List Token := cs.map .plain

/-- Digits that spell a number which can be read and is beyond what an engine can count. -/
structure TooLarge (ds : List Char) : Prop where
  digits : ∀ c ∈ ds, c.isDigit = true
  readable : ds.length ≤ maxDigits
  large : countLimit ≤ ofDigits 10 ds

/-- Tokens that an engine breaks down on, and the defect. -/
inductive Oversized : Defect → List Token → Prop
  /-- One bound in braces. -/
  | exactly {ds : List Char} (h : TooLarge ds) :
      Oversized .repeatTooLarge ([.plain '\x7b'] ++ plainTokens ds ++ [.plain '\x7d'])
  /-- Two bounds in braces, each of which may be left out. -/
  | between {low high : List Char} (hlow : ∀ c ∈ low, c.isDigit = true)
      (hhigh : ∀ c ∈ high, c.isDigit = true) (h : TooLarge low ∨ TooLarge high) :
      Oversized .repeatTooLarge
        ([.plain '\x7b'] ++ plainTokens low ++ [.plain ','] ++ plainTokens high ++ [.plain '\x7d'])
  /-- An escape by eight hexadecimal digits. -/
  | codePoint {ds : List Char} (hdigits : ∀ c ∈ ds, isHexDigit c = true) (hcount : ds.length = 8)
      (h : maxCodeNumber < ofDigits 16 ds) :
      Oversized .codePointTooLarge ([.escaped 'U'] ++ plainTokens ds)

/-- Somewhere among tokens stands what is too large. -/
def Holds (d : Defect) (ts : List Token) : Prop := ∃ piece, Oversized d piece ∧ piece <:+: ts

theorem Holds.mono (h : Holds d ts) (hts : ts <:+: ts') : Holds d ts' := by
  obtain ⟨piece, hpiece, hin⟩ := h
  exact ⟨piece, hpiece, hin.trans hts⟩

/-- Digits of a base spell less than the power of it that their number gives. -/
theorem ofDigits_lt {base : Nat} {ds : List Char}
    (h : ∀ c ∈ ds, (asciiDigit? c).any (· < base) = true) :
    ofDigits base ds < base ^ ds.length := by
  have hfold : ∀ n, ds.foldl (fun n c => n * base + (asciiDigit? c).getD 0) n <
      (n + 1) * base ^ ds.length := by
    induction ds with
    | nil => intro n; simp
    | cons c ds ih =>
      obtain ⟨hc, hds⟩ := List.forall_mem_cons.1 h
      intro n
      have hdigit : (asciiDigit? c).getD 0 < base := by
        cases hv : asciiDigit? c with
        | none => simp [hv] at hc
        | some v => simpa [hv] using hc
      have hnext : n * base + (asciiDigit? c).getD 0 + 1 ≤ (n + 1) * base := by
        rw [Nat.add_mul]
        omega
      calc (c :: ds).foldl (fun n c => n * base + (asciiDigit? c).getD 0) n
          < (n * base + (asciiDigit? c).getD 0 + 1) * base ^ ds.length := ih hds _
        _ ≤ (n + 1) * base * base ^ ds.length := Nat.mul_le_mul_right _ hnext
        _ = (n + 1) * base ^ (c :: ds).length := by
          rw [List.length_cons, Nat.pow_succ', Nat.mul_assoc]
  have hzero := hfold 0
  rwa [Nat.zero_add, Nat.one_mul] at hzero

/-! ## §2. Readers that break down on it only. -/

/-- What a reader comes to, for some tokens in sight: it leaves an end of them, or it breaks down on
what is too large among them. -/
structure Fine (ts : List Token) (result : Except Refused (α × Scan)) : Prop where
  ok : ∀ a s', result = .ok (a, s') → s'.rest <:+ ts
  defect : ∀ d, result = .error (.defect d) → Holds d ts

namespace Fine

theorem mono {result : Except Refused (α × Scan)} (h : Fine ts result) (hts : ts <:+ ts') :
    Fine ts' result :=
  ⟨fun a s' ha => (h.ok a s' ha).trans hts, fun d hd => (h.defect d hd).mono hts.isInfix⟩

theorem of_ok {a : α} (h : s'.rest <:+ ts) : Fine ts (.ok (a, s')) := by
  refine ⟨fun b s'' hb => ?_, nofun⟩
  cases hb
  exact h

theorem of_fault {f : Fault} : Fine ts (.error (.fault f) : Except Refused (α × Scan)) :=
  ⟨nofun, nofun⟩

theorem of_defect (h : Holds d ts) : Fine ts (.error (.defect d) : Except Refused (α × Scan)) := by
  refine ⟨nofun, fun d' hd => ?_⟩
  cases hd
  exact h

theorem bind {m : Read α} {f : α → Read β} (hm : Fine ts (m s))
    (hf : ∀ a s', m s = .ok (a, s') → s'.rest <:+ ts → Fine ts (f a s')) :
    Fine ts ((m >>= f) s) := by
  cases h : m s with
  | error r =>
    rw [bind_of_error h]
    rw [h] at hm
    exact ⟨nofun, fun d hd => hm.defect d (by rw [Except.error.inj hd])⟩
  | ok p =>
    obtain ⟨a, s'⟩ := p
    rw [bind_of_ok h]
    exact hf a s' h (hm.ok a s' h)

theorem ite {c : Prop} [Decidable c] {m n : Read α} (h : c → Fine ts (m s))
    (h' : ¬ c → Fine ts (n s)) : Fine ts ((if c then m else n) s) := by
  by_cases hc : c
  · rw [if_pos hc]
    exact h hc
  · rw [if_neg hc]
    exact h' hc

end Fine

/-- A reader that leaves an end of the tokens in sight or breaks down on something among them; some
have just been taken. -/
def InSight (taken : List Token) (m : Read α) : Prop := ∀ s, Fine (taken ++ s.rest) (m s)

namespace InSight

theorem fine {m : Read α} (h : InSight [] m) (hleft : s.rest <:+ ts) : Fine ts (m s) :=
  (h s).mono hleft

theorem pure (a : α) : InSight taken (Pure.pure a : Read α) :=
  fun _ => .of_ok (List.suffix_append _ _)

theorem failAt (cause : Cause) (place : Nat) : InSight taken (failAt cause place : Read α) :=
  fun _ => .of_fault

theorem failBack (cause : Cause) (back : Nat) : InSight taken (failBack cause back : Read α) :=
  fun _ => .of_fault

theorem bind {m : Read α} {f : α → Read β} (hm : InSight taken m) (hf : ∀ a, InSight [] (f a)) :
    InSight taken (m >>= f) :=
  fun s => (hm s).bind fun a _ _ hleft => (hf a).fine hleft

theorem get {f : Scan → Read α} (h : ∀ s, InSight taken (f s)) :
    InSight taken (MonadState.get >>= f) :=
  fun s => h s s

theorem ite {c : Prop} [Decidable c] {m n : Read α} (h : InSight taken m) (h' : InSight taken n) :
    InSight taken (if c then m else n) :=
  fun s => .ite (fun _ => h s) fun _ => h' s

theorem modify {f : Scan → Scan} (h : ∀ s, (f s).rest = s.rest) : InSight taken (modify f) := by
  intro s
  have hleft : (f s).rest <:+ taken ++ s.rest := by
    rw [h]
    exact List.suffix_append _ _
  exact .of_ok hleft

/-- Other tokens that have been taken widen the sight. -/
theorem after {m : Read α} (h : InSight [] m) : InSight taken m :=
  fun _ => h.fine (List.suffix_append _ _)

theorem settle : InSight taken settle := by
  intro s
  rw [settle_eq]
  split
  · exact .of_fault
  · exact .of_ok (List.suffix_append _ _)

theorem skip (count : Nat) : InSight taken (skip count) := by
  intro s
  rw [skip_eq]
  split
  · exact .of_fault
  · exact .of_ok ((List.drop_suffix _ _).trans (List.suffix_append _ _))

/-- A token is skipped that what follows may break down on. -/
theorem skip_bind {f : Unit → Read α} {t : Token} (h : InSight [t] (f ())) {more : List Token}
    (hrest : s.rest = t :: more) : Fine s.rest ((Regex.skip 1 >>= f) s) := by
  have hskip : Fine ([] ++ s.rest) (Regex.skip 1 s) := skip 1 s
  refine hskip.bind fun u s' hs _ => ?_
  obtain ⟨rfl, -⟩ := skip_ok hs
  have hleft : s.rest = [t] ++ (s.skipped 1).rest := by
    show _ = [t] ++ s.rest.drop 1
    rw [hrest]
    rfl
  rw [hleft]
  exact h _

/-- A token is taken that what follows may break down on. -/
theorem take_bind {f : Option Token → Read α} (hnone : InSight [] (f none))
    (hsome : ∀ t, InSight [t] (f (some t))) : InSight [] (take >>= f) := by
  intro s
  cases hrest : s.rest with
  | nil =>
    rw [bind_of_ok (take_nil hrest)]
    exact hrest ▸ hnone s
  | cons t more =>
    rw [take_bind_cons f hrest]
    exact hrest ▸ skip_bind (hsome t) hrest

theorem accept (c : Char) : InSight taken (accept c) := by
  unfold Regex.accept
  intro s
  rw [peek_bind]
  exact ite ((skip 1).bind fun _ => pure true) (pure false) s

theorem takeKind (limit : Nat) (kind : Char → Bool) : InSight taken (takeKind limit kind) := by
  unfold Regex.takeKind
  exact get fun s => ite (pure []) ((skip _).bind fun _ => pure _)

theorem takeName (terminator : Char) (sort : String) : InSight taken (takeName terminator sort) := by
  unfold Regex.takeName
  refine get fun s => ite ((skip _).bind fun _ => ?_) ((skip _).bind fun _ => ?_)
  · exact ite (failBack _ _) (failBack _ _)
  · exact ite (failBack _ _) (pure _)

theorem octalEscape (ds : List Char) : InSight taken (octalEscape ds) := ite (failBack _ _) (pure _)

theorem plainEscape (c : Char) : InSight taken (plainEscape c) := ite (failBack _ _) (pure _)

theorem nameEscape : InSight taken nameEscape := by
  unfold Regex.nameEscape
  refine (accept _).bind fun brace => ite ((takeName _ _).bind fun name => ?_) (failBack _ _)
  cases charNamed? name with
  | some c => exact pure _
  | none => exact failBack _ _

theorem checkLookbehind (index : Nat) : InSight taken (checkLookbehind index) := by
  unfold Regex.checkLookbehind
  refine get fun s => ?_
  cases s.lookbehind with
  | none => exact pure ()
  | some first => exact ite (failBack _ _) (ite (failBack _ _) (pure ()))

theorem groupReference (ds : List Char) : InSight taken (groupReference ds) := by
  unfold Regex.groupReference
  refine get fun s => ite (ite (failBack _ _) ?_) (failBack _ _)
  exact (checkLookbehind _).bind fun _ => pure _

theorem digitEscape (c : Char) : InSight taken (digitEscape c) := by
  unfold Regex.digitEscape
  refine ite ?_ ((takeKind _ _).bind fun ds => ?_)
  · exact (takeKind _ _).bind fun ds => (octalEscape _).bind fun _ => pure _
  · cases ds with
    | nil => exact groupReference _
    | cons d ds =>
      refine ite ((takeKind _ _).bind fun third => ?_) (groupReference _)
      cases third with
      | nil => exact groupReference _
      | cons d third => exact (octalEscape _).bind fun _ => pure _

end InSight

/-! ## §3. Escapes. -/

/-- Tokens of a kind of characters are these characters. -/
theorem eq_plainTokens {kind : Char → Bool} {run : List Token}
    (h : ∀ t ∈ run, (t.ofKind? kind).isSome = true) :
    run = plainTokens (tokenChars run) ∧ ∀ c ∈ tokenChars run, kind c = true := by
  induction run with
  | nil => exact ⟨rfl, by simp [tokenChars]⟩
  | cons t run ih =>
    obtain ⟨ht, hrun⟩ := List.forall_mem_cons.1 h
    obtain ⟨heq, hkinds⟩ := ih hrun
    cases t with
    | escaped c => cases ht
    | plain c =>
      have hc : kind c = true := by
        cases hc : kind c with
        | true => rfl
        | false => simp [Token.ofKind?, hc] at ht
      exact ⟨congrArg (.plain c :: ·) heq, List.forall_mem_cons.2 ⟨hc, hkinds⟩⟩

/-- Characters of a kind are taken as they stand. -/
theorem takeKind_ok {limit : Nat} {kind : Char → Bool} {ds : List Char}
    (h : takeKind limit kind s = .ok (ds, s')) :
    s.rest = plainTokens ds ++ s'.rest ∧ (∀ c ∈ ds, kind c = true) ∧ ds.length ≤ limit := by
  obtain ⟨_, _, hget, h⟩ := exists_of_bind_ok h
  cases hget
  simp only at h
  split at h
  · cases h
    exact ⟨rfl, by simp, Nat.zero_le _⟩
  · obtain ⟨_, _, hskip, h⟩ := exists_of_bind_ok h
    cases h
    obtain ⟨rfl, -⟩ := skip_ok hskip
    generalize hrun : (s.rest.take limit).takeWhile (fun t => (t.ofKind? kind).isSome) = run
    have hprefix : run <+: s.rest.take limit := hrun ▸ List.takeWhile_prefix _
    have hall : ∀ t ∈ run, (t.ofKind? kind).isSome = true := by
      subst hrun
      exact fun t ht => List.mem_takeWhile_imp (p := fun t : Token => (t.ofKind? kind).isSome) ht
    obtain ⟨heq, hkinds⟩ := eq_plainTokens hall
    refine ⟨?_, hkinds, ?_⟩
    · obtain ⟨after, hafter⟩ := hprefix.trans (List.take_prefix _ _)
      show s.rest = plainTokens (tokenChars run) ++ s.rest.drop run.length
      rw [← heq, ← hafter, List.drop_left]
    · have hlength : (tokenChars run).length = run.length := by
        rw [congrArg List.length heq, plainTokens, List.length_map]
      rw [hlength]
      exact Nat.le_trans hprefix.length_le (List.length_take_le _ _)

/-- Hexadecimal digits of a code point break down on their number alone. -/
theorem fine_hexEscape {letter : Char} {count : Nat}
    (hlarge : ∀ ds more, s.rest = plainTokens ds ++ more → (∀ c ∈ ds, isHexDigit c = true) →
      ds.length = count → maxCodeNumber < ofDigits 16 ds →
        Holds .codePointTooLarge (taken ++ s.rest)) :
    Fine (taken ++ s.rest) (hexEscape letter count s) := by
  unfold hexEscape
  refine Fine.bind (InSight.takeKind _ _ s) fun ds s' hds hleft => ?_
  obtain ⟨hrest, hkind, hlength⟩ := takeKind_ok hds
  refine .ite (fun _ => .of_fault) fun hshort => .ite (fun hbeyond => ?_) fun _ => ?_
  · have hcount : ds.length = count := Nat.le_antisymm hlength (Nat.not_lt.1 hshort)
    exact .of_defect (hlarge ds s'.rest hrest hkind hcount hbeyond)
  · exact .ite (fun _ => .of_fault) fun _ => .of_ok hleft

namespace InSight

/-- Eight digits can be too large. -/
theorem longEscape : InSight [.escaped 'U'] (hexEscape 'U' 8) := by
  intro s
  refine fine_hexEscape fun ds more hrest hkind hcount hlarge => ?_
  refine ⟨_, .codePoint hkind hcount hlarge, ?_⟩
  rw [hrest, ← List.append_assoc]
  exact (List.prefix_append _ _).isInfix

/-- Four digits are never too large. -/
theorem shortEscape {letter : Char} {count : Nat} (hcount : count ≤ 4) :
    InSight taken (hexEscape letter count) := by
  intro s
  refine fine_hexEscape fun ds _ _ hkind hlength hlarge => ?_
  have hbound : ofDigits 16 ds < 16 ^ ds.length := ofDigits_lt hkind
  have hpower : 16 ^ ds.length ≤ 16 ^ 4 := Nat.pow_le_pow_right (by decide) (hlength ▸ hcount)
  have hless : 16 ^ 4 ≤ maxCodeNumber := by decide
  omega

theorem codeEscape {c : Char} {code : Read Nat} (h : codeEscape? c = some code) :
    InSight [.escaped c] code := by
  unfold codeEscape? at h
  split at h
  · cases h
    exact shortEscape (by decide)
  · cases h
    exact shortEscape (by decide)
  · cases h
    exact longEscape
  · cases h
    exact nameEscape
  · cases h

theorem setEscape (c : Char) : InSight [.escaped c] (setEscape c) := by
  unfold Regex.setEscape
  split
  · exact pure _
  · exact pure _
  · next hcode => exact (codeEscape hcode).bind fun _ => pure _
  · exact ite ((takeKind _ _).bind fun ds => (octalEscape _).bind fun _ => pure _)
      ((plainEscape c).bind fun _ => pure _)

theorem itemEscape (c : Char) : InSight [.escaped c] (itemEscape c) := by
  unfold Regex.itemEscape
  split
  · exact pure _
  · exact pure _
  · exact pure _
  · next hcode => exact (codeEscape hcode).bind fun _ => pure _
  · exact ite (digitEscape c) ((plainEscape c).bind fun _ => pure _)

/-! ## §4. Sets. -/

theorem setToken (t : Token) : InSight [t] (setToken t) := by
  cases t with
  | plain c => exact pure _
  | escaped c => exact setEscape c

theorem rangeOf (first last : Token) (low high : Member) :
    InSight taken (rangeOf first last low high) := by
  unfold Regex.rangeOf
  split
  · exact ite (failBack _ _) (pure _)
  · exact failBack _ _

theorem setMembers (start fuel : Nat) (acc : List Member) :
    InSight [] (setMembers start fuel acc) := by
  induction fuel generalizing acc with
  | zero => exact failAt _ _
  | succ fuel ih =>
    unfold Regex.setMembers
    refine take_bind (failAt _ _) fun t => ite (pure _) ((setToken t).bind fun m => ?_)
    refine (accept _).bind fun dash => ite ?_ (ih _)
    refine take_bind (failAt _ _) fun u => ite (pure _) ((setToken u).bind fun n => ?_)
    exact (rangeOf t u m n).bind fun r => ih _

theorem readSet : InSight [] readSet := by
  unfold Regex.readSet
  refine get fun s => (accept _).bind fun negated => get fun s' => ?_
  exact (setMembers _ _ _).bind fun members => pure _

end InSight

/-! ## §5. Repetitions. -/

theorem accept_ok {c : Char} {b : Bool} (h : accept c s = .ok (b, s')) :
    (b = true ∧ s.rest = .plain c :: s'.rest) ∨ (b = false ∧ s' = s) := by
  by_cases hhead : s.rest.head? = some (.plain c)
  · rw [accept_of_head hhead] at h
    obtain ⟨_, _, hskip, h⟩ := exists_of_bind_ok h
    cases h
    obtain ⟨rfl, -⟩ := skip_ok hskip
    obtain ⟨more, hmore⟩ := List.head?_eq_some_iff.1 hhead
    refine .inl ⟨rfl, ?_⟩
    show _ = .plain c :: s.rest.drop 1
    rw [hmore]
    rfl
  · rw [accept_of_not_head hhead] at h
    cases h
    exact .inr ⟨rfl, rfl⟩

theorem fine_readCount {ds : List Char} (hdigits : ∀ c ∈ ds, c.isDigit = true)
    (hleft : s.rest <:+ ts) (hlarge : TooLarge ds → Holds .repeatTooLarge ts) :
    Fine ts (readCount ds s) := by
  unfold readCount
  refine .ite (fun _ => .of_ok hleft) fun _ => .ite (fun _ => .of_fault) fun hmany => ?_
  refine .ite (fun hbeyond => ?_) fun _ => .of_ok hleft
  exact .of_defect (hlarge ⟨hdigits, Nat.not_lt.1 hmany, hbeyond⟩)

theorem fine_boundsOf {start : Nat} {low high : List Char} (hlow : ∀ c ∈ low, c.isDigit = true)
    (hhigh : ∀ c ∈ high, c.isDigit = true) (hleft : s.rest <:+ ts)
    (hlarge : TooLarge low ∨ TooLarge high → Holds .repeatTooLarge ts) :
    Fine ts (boundsOf start low high s) := by
  unfold boundsOf
  refine (fine_readCount hlow hleft fun h => hlarge (.inl h)).bind fun min s₁ _ hleft₁ => ?_
  refine (fine_readCount hhigh hleft₁ fun h => hlarge (.inr h)).bind fun max s₂ _ hleft₂ => ?_
  cases max with
  | none => exact .of_ok hleft₂
  | some max => exact .ite (fun _ => .of_fault) fun _ => .of_ok hleft₂

/-- An upper bound stands after a comma, or is the lower one. -/
theorem readUpper_ok {limit : Nat} {low high : List Char}
    (h : readUpper limit low s = .ok (high, s')) :
    (s.rest = .plain ',' :: (plainTokens high ++ s'.rest) ∧ ∀ c ∈ high, c.isDigit = true) ∨
      (high = low ∧ s' = s) := by
  obtain ⟨b, s₁, haccept, hs⟩ := exists_of_bind_ok h
  obtain ⟨rfl, hcomma⟩ | ⟨rfl, rfl⟩ := accept_ok haccept
  · obtain ⟨hrest, hdigits, -⟩ := takeKind_ok hs
    exact .inl ⟨by rw [hcomma, hrest], hdigits⟩
  · cases hs
    exact .inr ⟨rfl, rfl⟩

namespace InSight

theorem readUpper (limit : Nat) (low : List Char) : InSight taken (readUpper limit low) := by
  unfold Regex.readUpper
  exact (accept _).bind fun comma => ite (takeKind _ _) (pure _)

/-- Bounds are too large where they stand in their braces. -/
theorem readBounds : InSight [.plain '\x7b'] readBounds := by
  intro s
  show Fine _ ((if s.rest.head? = some (.plain '\x7d') then Pure.pure none else _ :
    Read (Option (Nat × Option Nat))) s)
  by_cases hempty : s.rest.head? = some (.plain '\x7d')
  · rw [if_pos hempty]
    exact pure none s
  · rw [if_neg hempty]
    refine (takeKind _ _ s).bind fun low s₁ h₁ hleft₁ => ?_
    refine ((readUpper _ low).fine hleft₁).bind fun high s₂ h₂ hleft₂ => ?_
    refine ((accept _).fine hleft₂).bind fun closed s₃ h₃ hleft₃ => ?_
    cases closed with
    | false => exact .of_ok (List.suffix_append _ _)
    | true =>
      obtain ⟨hrest, hlow, -⟩ := takeKind_ok h₁
      have hclose : s₂.rest = [.plain '\x7d'] ++ s₃.rest := by
        obtain ⟨-, hclose⟩ | ⟨hfalse, -⟩ := accept_ok h₃
        · exact hclose
        · cases hfalse
      have hbounds : Fine ([.plain '\x7b'] ++ s.rest) (boundsOf s.place low high s₃) := by
        obtain ⟨hcomma, hhigh⟩ | ⟨rfl, rfl⟩ := readUpper_ok h₂
        · refine fine_boundsOf hlow hhigh hleft₃ fun hlarge => ?_
          refine ⟨_, .between hlow hhigh hlarge, List.IsPrefix.isInfix ⟨s₃.rest, ?_⟩⟩
          rw [hrest, hcomma, hclose]
          simp only [List.append_assoc, List.cons_append, List.nil_append]
        · refine fine_boundsOf hlow hlow hleft₃ fun hlarge => ?_
          refine ⟨_, .exactly (or_self_iff.1 hlarge), List.IsPrefix.isInfix ⟨s₃.rest, ?_⟩⟩
          rw [hrest, hclose]
          simp only [List.append_assoc, List.cons_append, List.nil_append]
      exact hbounds.bind fun bounds s₄ _ hleft₄ => .of_ok hleft₄

/-- Of the signs of repetition, the brace alone can be followed by what is too large. -/
theorem readQuantifier {c : Char} (hc : c ∈ ['*', '+', '?', '\x7b']) :
    InSight [.plain c] (readQuantifier c) := by
  simp only [List.mem_cons, List.not_mem_nil, or_false] at hc
  rcases hc with rfl | rfl | rfl | rfl
  · exact pure _
  · exact pure _
  · exact pure _
  · exact readBounds

theorem readGreed : InSight taken readGreed := by
  unfold Regex.readGreed
  refine (accept _).bind fun reluctant => ite (pure _) ?_
  exact (accept _).bind fun possessive => ite (pure _) (pure _)

theorem repeatLast (start low : Nat) (high : Option Nat) (acc : List Item) :
    InSight taken (repeatLast start low high acc) := by
  unfold Regex.repeatLast
  cases acc with
  | nil => exact failAt _ _
  | cons i before =>
    exact ite (failAt _ _) (ite (failAt _ _) (readGreed.bind fun greed => pure _))

theorem readRepetition {c : Char} (hc : c ∈ ['*', '+', '?', '\x7b']) (start : Nat)
    (acc : List Item) : InSight [.plain c] (readRepetition c start acc) := by
  unfold Regex.readRepetition
  refine (readQuantifier hc).bind fun bounds => ?_
  cases bounds with
  | none => exact pure _
  | some bounds => exact repeatLast _ _ _ _

/-! ## §6. Flags and openings. -/

theorem flagsOn (fuel : Nat) (letter : Char) (acc : List Char) :
    InSight [] (flagsOn fuel letter acc) := by
  induction fuel generalizing letter acc with
  | zero => exact failBack _ _
  | succ fuel ih =>
    unfold Regex.flagsOn
    refine ite (failBack _ _) (ite (failBack _ _) (take_bind (failBack _ _) fun t => ?_))
    simp only
    split
    · exact pure _
    · exact (ih _ _).after
    · exact failBack _ _

theorem flagsOff (fuel : Nat) (letter : Char) (acc : List Char) :
    InSight [] (flagsOff fuel letter acc) := by
  induction fuel generalizing letter acc with
  | zero => exact failBack _ _
  | succ fuel ih =>
    unfold Regex.flagsOff
    refine ite (failBack _ _) (take_bind (failBack _ _) fun t => ite (pure _) ?_)
    cases t.flag? with
    | some next => exact (ih _ _).after
    | none => exact failBack _ _

theorem readOn (fuel : Nat) (first : Char) : InSight [] (readOn fuel first) :=
  ite (pure _) (flagsOn _ _ _)

theorem readOff (fuel : Nat) (stop : Char) : InSight [] (readOff fuel stop) := by
  unfold Regex.readOff
  refine ite (take_bind (failBack _ _) fun t => ?_) (pure _)
  simp only
  cases t.flag? with
  | some letter => exact (flagsOff _ _ _).after
  | none => exact failBack _ _

theorem readFlags (first : Char) : InSight taken (readFlags first) := by
  unfold Regex.readFlags
  refine after (get fun s => (readOn _ _).bind fun p => ite ?_ (ite (failBack _ _) ?_))
  · refine bind (modify ?_) fun _ => pure _
    exact fun _ => rfl
  · refine (readOff _ _).bind fun off => ite (failBack _ _) ?_
    exact ite (failBack _ _) (pure _)

theorem checkName (name : List Char) : InSight taken (checkName name) := ite (pure _) (failBack _ _)

theorem groupNamed (name : List Char) : InSight taken (groupNamed name) := by
  unfold Regex.groupNamed
  refine get fun s => ?_
  cases s.names.lookup name with
  | some index => exact pure _
  | none => exact failBack _ _

theorem namedReference : InSight taken namedReference := by
  unfold Regex.namedReference
  refine (takeName _ _).bind fun name => (checkName name).bind fun _ => ?_
  refine (groupNamed name).bind fun index => get fun s => ite (failBack _ _) ?_
  exact (checkLookbehind index).bind fun _ => pure _

theorem conditionGroup : InSight taken conditionGroup := by
  unfold Regex.conditionGroup
  refine (takeName _ _).bind fun name => ite ((groupNamed name).bind fun _ => pure _) ?_
  cases readInt 10 name with
  | error e => exact failBack _ _
  | ok i =>
    refine ite (failBack _ _) (ite (failBack _ _) (ite (failBack _ _) ?_))
    refine (modify fun s => ?_).bind fun _ => pure _
    split <;> rfl

theorem skipComment (start : Nat) : InSight taken (skipComment start) := by
  unfold Regex.skipComment
  exact get fun s => ite ((skip _).bind fun _ => failAt _ _) (skip _)

theorem skipLine : InSight taken skipLine := get fun _ => skip _

theorem readLookbehind : InSight [] readLookbehind := by
  unfold Regex.readLookbehind
  refine take_bind (failBack _ _) fun t => ?_
  split
  · exact failBack _ _
  · exact pure _
  · exact pure _
  · exact failBack _ _

theorem readNamed : InSight [] readNamed := by
  unfold Regex.readNamed
  refine (accept _).bind fun angle => ite ?_ ((accept _).bind fun equals => ite ?_ ?_)
  · exact (takeName _ _).bind fun name => (checkName name).bind fun _ => pure _
  · exact namedReference.bind fun _ => pure _
  · exact take_bind (failBack _ _) fun t => failBack _ _

theorem readOpening (start : Nat) : InSight [] (readOpening start) := by
  unfold Regex.readOpening
  refine (accept _).bind fun mark => ite (take_bind (failBack _ _) fun t => ?_) (pure _)
  split
  · exact failBack _ _
  · exact readNamed.after
  · exact pure _
  · exact (skipComment start).bind fun _ => pure _
  · exact pure _
  · exact pure _
  · exact readLookbehind.after
  · exact pure _
  · exact pure _
  · split
    · exact failBack _ _
    · exact readFlags _

/-! ## §7. Sequences and choices. -/

theorem openGroup (name : Option (List Char)) : InSight taken (openGroup name) := by
  intro s
  unfold Regex.openGroup
  rw [get_bind]
  cases name with
  | none => exact .of_ok (List.suffix_append _ _)
  | some n =>
    simp only
    cases s.names.lookup n with
    | some first => exact .of_fault
    | none => exact .of_ok (List.suffix_append _ _)

theorem expectClosing (start : Nat) : InSight taken (expectClosing start) :=
  (accept _).bind fun _ => ite (pure _) (failAt _ _)

theorem inLook {ahead : Bool} {body : Read α} (h : InSight [] body) :
    InSight [] (inLook ahead body) := by
  unfold Regex.inLook
  refine get fun s => ite ?_ h
  refine bind (modify ?_) fun _ => h.bind fun a => bind (modify ?_) fun _ => pure a
  · exact fun _ => rfl
  · exact fun _ => rfl

theorem afterBar {sequence : Read (List Item)} (h : InSight [] sequence) :
    InSight [] (afterBar sequence) := by
  unfold Regex.afterBar
  refine (accept _).bind fun bar => ite (h.bind fun no => ?_) (pure _)
  intro s
  rw [peek_bind]
  exact ite (failBack _ _) (pure _) s

section

variable {group : Opening → Read (Option Item)} (hgroup : ∀ opening, InSight [] (group opening))
  (verbose first : Bool) (start : Nat) (acc : List Item)

include hgroup

theorem readParenthesis : InSight [] (readParenthesis group verbose first start acc) := by
  unfold Regex.readParenthesis
  refine (readOpening start).bind fun opening => ite ?_ ?_
  · exact ite (get fun s => pure _) (failAt _ _)
  · exact (hgroup opening).bind fun i => pure _

/-- What a token begins breaks down on what begins with it, or comes after it. -/
theorem readToken (t : Token) : InSight [t] (readToken group verbose first start acc t) := by
  cases t with
  | escaped c => exact (itemEscape c).bind fun i => pure _
  | plain c =>
    simp only [Regex.readToken]
    refine ite (pure _) (ite (skipLine.bind fun _ => pure _) ?_)
    split
    · exact pure _
    · exact pure _
    · exact pure _
    · exact readSet.after.bind fun i => pure _
    · exact (readParenthesis hgroup verbose first start acc).after
    · exact (readRepetition (by decide) start acc).bind fun _ => pure _
    · exact (readRepetition (by decide) start acc).bind fun _ => pure _
    · exact (readRepetition (by decide) start acc).bind fun _ => pure _
    · exact (readRepetition (by decide) start acc).bind fun _ => pure _
    · exact pure _

end

end InSight

/-- For a fuel, all that readers of items and groups come to is in sight. -/
structure AllInSight (fuel : Nat) : Prop where
  items : ∀ verbose first acc, InSight [] (readItems fuel verbose first acc)
  group : ∀ verbose start opening, InSight [] (readGroup fuel verbose start opening)
  choice : ∀ verbose top, InSight [] (readChoice fuel verbose top)
  alternatives : ∀ verbose top, InSight [] (readAlternatives fuel verbose top)

namespace AllInSight

variable {fuel : Nat}

theorem readItems (h : AllInSight fuel) (verbose first : Bool) (acc : List Item) :
    InSight [] (readItems (fuel + 1) verbose first acc) := by
  intro s
  rw [Regex.readItems, peek_bind]
  have hend : Fine ([] ++ s.rest) ((pure acc.reverse : Read (List Item)) s) := InSight.pure _ s
  generalize hnext : s.rest.head? = next
  split
  · exact hend
  · exact hend
  · exact hend
  · obtain ⟨more, hrest⟩ := List.head?_eq_some_iff.1 hnext
    rw [get_bind]
    refine InSight.skip_bind ?_ hrest
    exact (InSight.readToken (h.group _ _) _ _ _ _ _).bind fun p => h.items _ _ _

theorem readGroup (h : AllInSight fuel) (verbose : Bool) (start : Nat) (opening : Opening) :
    InSight [] (readGroup (fuel + 1) verbose start opening) := by
  cases opening with
  | comment =>
    rw [Regex.readGroup]
    exact .pure _
  | flags =>
    rw [Regex.readGroup]
    exact .pure _
  | reference index =>
    rw [Regex.readGroup]
    exact .pure _
  | group name =>
    rw [Regex.readGroup]
    refine (InSight.openGroup name).bind fun index => (h.choice _ _).bind fun body => ?_
    refine (InSight.expectClosing start).bind fun _ => .bind (.modify ?_) fun _ => .pure _
    exact fun _ => rfl
  | plain on off =>
    rw [Regex.readGroup]
    exact (h.choice _ _).bind fun body => (InSight.expectClosing start).bind fun _ => .pure _
  | atomic =>
    rw [Regex.readGroup]
    exact (h.choice _ _).bind fun body => (InSight.expectClosing start).bind fun _ => .pure _
  | look ahead negated =>
    rw [Regex.readGroup]
    refine (InSight.inLook (h.choice _ _)).bind fun body => ?_
    exact (InSight.expectClosing start).bind fun _ => .pure _
  | conditional =>
    rw [Regex.readGroup]
    refine InSight.conditionGroup.bind fun p => (InSight.checkLookbehind _).bind fun _ => ?_
    refine (h.items _ _ _).bind fun yes => (InSight.afterBar (h.items _ _ _)).bind fun no => ?_
    exact (InSight.expectClosing start).bind fun _ => .pure _

theorem readChoice (h : AllInSight fuel) (verbose top : Bool) :
    InSight [] (readChoice (fuel + 1) verbose top) := by
  rw [Regex.readChoice]
  refine (h.items _ _ _).bind fun head => (h.alternatives _ _).bind fun tail => ?_
  exact .ite (.pure _) (.pure _)

theorem readAlternatives (h : AllInSight fuel) (verbose top : Bool) :
    InSight [] (readAlternatives (fuel + 1) verbose top) := by
  rw [Regex.readAlternatives]
  refine (InSight.accept _).bind fun bar => .ite (.get fun s => ?_) (.pure _)
  exact (h.items _ _ _).bind fun head => (h.alternatives _ _).bind fun tail => .pure _

end AllInSight

theorem allInSight (fuel : Nat) : AllInSight fuel := by
  induction fuel with
  | zero =>
    refine ⟨fun _ _ _ => ?_, fun _ _ _ => ?_, fun _ _ => ?_, fun _ _ => ?_⟩
    · rw [Regex.readItems]
      exact .pure _
    · rw [Regex.readGroup]
      exact .failAt _ _
    · rw [Regex.readChoice]
      exact .pure _
    · rw [Regex.readAlternatives]
      exact .pure _
  | succ fuel ih => exact ⟨ih.readItems, ih.readGroup, ih.readChoice, ih.readAlternatives⟩

/-! ## §8. Expressions. -/

theorem InSight.finish (items : List Item) : InSight [] (finish items) := by
  unfold Regex.finish
  refine get fun s => ite (fun _ => .of_fault) (ite (failBack _ _) ?_)
  cases danglingCondition? s with
  | some condition => exact failAt _ _
  | none => exact pure _

theorem InSight.readExpression (fuel : Nat) : InSight [] (readExpression fuel) :=
  settle.bind fun _ => ((allInSight fuel).choice _ _).bind fun items => finish items

/-- **What cannot be read holds a fault, or a number that is too large.** -/
theorem holds_of_parse {source : List Char} (h : parse source = .error (.defect d)) :
    Holds d (tokens source).1 := by
  have hrun : readExpression (4 * source.length + 8) (Scan.start source) = .error (.defect d) := by
    change (Prod.fst <$> readExpression (4 * source.length + 8) (Scan.start source)) = _ at h
    cases hs : readExpression (4 * source.length + 8) (Scan.start source) with
    | error r =>
      rw [hs] at h
      exact congrArg _ (Except.error.inj h)
    | ok p =>
      rw [hs] at h
      cases h
  exact (InSight.readExpression _ (Scan.start source)).defect d hrun

/-- What an engine breaks down on in an expression. -/
inductive Exceeds (source : List Char) : Defect → Prop
  /-- A number is too large to be read. -/
  | number {d : Defect} (h : Holds d (tokens source).1) : Exceeds source d
  /-- The expression can be read, and a lookbehind in it is too long to be carried out. -/
  | lookbehind {e : Expression} (hparse : parse source = .ok e) (hflaw : e.flaw? = none)
      (h : anyLooksTooFar e.groupWidth e.items = true) : Exceeds source .lookbehindTooLong

/-- An engine breaks down on an expression for one of three reasons, which stand in it. -/
theorem exceeds_of_read {source : List Char} (h : read source = .error (.defect d)) :
    Exceeds source d := by
  unfold read at h
  cases hparse : parse source with
  | error r =>
    simp only [hparse] at h
    cases h
    exact .number (holds_of_parse hparse)
  | ok e =>
    simp only [hparse] at h
    cases hflaw : e.flaw? with
    | some cause =>
      simp only [hflaw] at h
      cases h
    | none =>
      simp only [hflaw] at h
      split at h
      · next hfar =>
        cases h
        exact .lookbehind hparse hflaw hfar
      · cases h

end QuasiGrammar.Regex
