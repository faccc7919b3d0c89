import QuasiGrammar.Regex.Check

/-
  QuasiGrammar.Proofs.Regex.Local
  ───────────────────────────────
  **What is read of an expression is read of it as part of another.**

  Small things are read by looking at tokens up to some sign, and whatever
  follows a closing parenthesis makes no difference: where reading succeeds, it
  succeeds in the same way when more text is appended that begins with one
  (`Agree`).  And it changes nothing but the place where the reader stands
  (`Moved`).
-/

namespace QuasiGrammar.Regex

open Number Text

variable {α β : Type} {s s' t t' : Scan}

/-! ## §1. Running a reader. -/

theorem bind_of_ok {m : Read α} {f : α → Read β} {a : α} (h : m s = .ok (a, s')) :
    (m >>= f) s = f a s' := by
  show (m s >>= fun p => f p.1 p.2) = _
  rw [h]
  rfl

theorem bind_of_error {m : Read α} {f : α → Read β} {r : Refused} (h : m s = .error r) :
    (m >>= f) s = .error r := by
  show (m s >>= fun p => f p.1 p.2) = _
  rw [h]
  rfl

theorem exists_of_bind_ok {m : Read α} {f : α → Read β} {b : β} (h : (m >>= f) s = .ok (b, s')) :
    ∃ a s₁, m s = .ok (a, s₁) ∧ f a s₁ = .ok (b, s') := by
  cases hm : m s with
  | error r =>
    rw [bind_of_error hm] at h
    cases h
  | ok p =>
    obtain ⟨a, s₁⟩ := p
    rw [bind_of_ok hm] at h
    exact ⟨a, s₁, rfl, h⟩

theorem get_bind (f : Scan → Read α) (s : Scan) : (get >>= f) s = f s s := rfl

theorem peek_bind (f : Option Token → Read α) (s : Scan) : (peek >>= f) s = f s.rest.head? s := rfl

/-- A reader that refuses whatever comes. -/
def Fails (m : Read α) : Prop := ∀ s, ∃ r, m s = .error r

theorem fails_failAt (cause : Cause) (place : Nat) : Fails (failAt cause place : Read α) :=
  fun _ => ⟨_, rfl⟩

theorem fails_failBack (cause : Cause) (back : Nat) : Fails (failBack cause back : Read α) :=
  fun _ => ⟨_, rfl⟩

theorem fails_throw (r : Refused) : Fails (throw r : Read α) := fun _ => ⟨r, rfl⟩

theorem Fails.bind {m : Read α} {f : α → Read β} (h : ∀ a, Fails (f a)) : Fails (m >>= f) := by
  intro s
  cases hm : m s with
  | error r => exact ⟨r, bind_of_error hm⟩
  | ok p =>
    rw [bind_of_ok hm]
    exact h p.1 p.2

/-! ## §2. Moving on. -/

/-- The reader stands further on, or where it stood, and knows what it knew. -/
structure Moved (s s' : Scan) : Prop where
  suffix : s'.rest <:+ s.rest
  /-- It does not come to stand before a lone backslash. -/
  settled : s.broken = true → s.rest ≠ [] → s'.rest ≠ []
  same : s' = { s with rest := s'.rest, place := s'.place }

theorem Moved.refl (s : Scan) : Moved s s := ⟨List.suffix_rfl, fun _ h => h, rfl⟩

theorem Moved.trans {s'' : Scan} (h : Moved s s') (h' : Moved s' s'') : Moved s s'' where
  suffix := h'.suffix.trans h.suffix
  settled hbroken hne := by
    have hsame : s'.broken = s.broken := by rw [h.same]
    exact h'.settled (hsame ▸ hbroken) (h.settled hbroken hne)
  same := by
    rw [h'.same, h.same]

theorem Moved.broken (h : Moved s s') : s'.broken = s.broken := by rw [h.same]

theorem Moved.length_le (h : Moved s s') : s'.rest.length ≤ s.rest.length := h.suffix.length_le

/-- The reader when it has taken some tokens. -/
def Scan.skipped (count : Nat) (s : Scan) : Scan :=
  { s with
    rest := s.rest.drop count
    place := s.place + total Token.width (s.rest.take count) }

theorem settle_eq (s : Scan) :
    settle s =
      if (s.rest.isEmpty && s.broken) = true then .error (.fault ⟨.loneBackslash, some s.place⟩)
      else .ok ((), s) := by
  show (if (s.rest.isEmpty && s.broken) = true
    then failAt .loneBackslash s.place else pure () : Read Unit) s = _
  split <;> rfl

/-- Who stands somewhere does not stand before a lone backslash. -/
theorem settle_ok {u : Unit} (h : settle s = .ok (u, s')) :
    s' = s ∧ ¬ (s.rest = [] ∧ s.broken = true) := by
  rw [settle_eq] at h
  split at h
  · cases h
  · next hsettled =>
    cases h
    exact ⟨rfl, by simpa using hsettled⟩

theorem skip_eq (count : Nat) (s : Scan) :
    skip count s =
      if ((s.skipped count).rest.isEmpty && s.broken) = true
      then .error (.fault ⟨.loneBackslash, some (s.skipped count).place⟩)
      else .ok ((), s.skipped count) :=
  settle_eq (s.skipped count)

theorem skip_ok {count : Nat} {u : Unit} (h : skip count s = .ok (u, s')) :
    s' = s.skipped count ∧ Moved s s' := by
  have hsettle : settle (s.skipped count) = .ok (u, s') := h
  obtain ⟨rfl, hsettled⟩ := settle_ok hsettle
  exact ⟨rfl, List.drop_suffix _ _, fun hbroken _ hnil => hsettled ⟨hnil, hbroken⟩, rfl⟩

theorem skip_of_whole (h : t.broken = false) (count : Nat) :
    skip count t = .ok ((), t.skipped count) ∧ Moved t (t.skipped count) := by
  have hok : skip count t = .ok ((), t.skipped count) := by
    rw [skip_eq, h, Bool.and_false]
    rfl
  exact ⟨hok, (skip_ok hok).2⟩

theorem take_nil (h : s.rest = []) : take s = .ok (none, s) := by
  show ((peek >>= fun x => _) : Read (Option Token)) s = _
  rw [peek_bind, h]
  rfl

theorem take_bind_cons (f : Option Token → Read α) {u : Token} {more : List Token}
    (h : s.rest = u :: more) : (take >>= f) s = (skip 1 >>= fun _ => f (some u)) s := by
  unfold take
  rw [bind_assoc, peek_bind, h]
  simp only [List.head?_cons, bind_assoc, pure_bind]

theorem accept_of_head {c : Char} (h : s.rest.head? = some (.plain c)) :
    accept c s = (skip 1 >>= fun _ => pure true) s := by
  unfold accept
  rw [peek_bind, if_pos h]

theorem accept_of_not_head {c : Char} (h : s.rest.head? ≠ some (.plain c)) :
    accept c s = (pure false : Read Bool) s := by
  unfold accept
  rw [peek_bind, if_neg h]

theorem one_le_length_of_head {ts : List Token} {u : Token} (h : ts.head? = some u) :
    1 ≤ ts.length := by
  obtain ⟨more, rfl⟩ := List.head?_eq_some_iff.1 h
  exact Nat.succ_pos _

/-! ## §3. Reading in a longer text. -/

/-- The tokens after the tag in the expression that begins a pattern. -/
def frameEnd : List Token :=
  [.plain ')', .escaped 's', .plain '*', .plain '(', .plain '`', .plain ')']

/-- The second reader stands in a text that goes on where the first one's ends. -/
structure Extends (s t : Scan) : Prop where
  rest : t.rest = s.rest ++ frameEnd
  whole : t.broken = false

/-- Where the first reader succeeds it only moves, and the second one moves in the same way. -/
def Agree (s t : Scan) (m n : Read α) : Prop :=
  ∀ a s', m s = .ok (a, s') →
    Moved s s' ∧ ∃ t', n t = .ok (a, t') ∧ Moved t t' ∧ Extends s' t'

/-- A reader that reads the same in a longer text. -/
def Local (m : Read α) : Prop := ∀ s t, Extends s t → Agree s t m m

namespace Agree

theorem pure (h : Extends s t) (a : α) : Agree s t (Pure.pure a : Read α) (Pure.pure a) := by
  intro b s' hb
  cases hb
  exact ⟨.refl s, t, rfl, .refl t, h⟩

theorem bind {m n : Read α} {f g : α → Read β} (hm : Agree s t m n)
    (hf : ∀ a s' t', Moved s s' → Extends s' t' → Agree s' t' (f a) (g a)) :
    Agree s t (m >>= f) (n >>= g) := by
  intro b s₂ h
  obtain ⟨a, s₁, h₁, h₂⟩ := exists_of_bind_ok h
  obtain ⟨hs, t₁, ht₁, hmoved, hext⟩ := hm a s₁ h₁
  obtain ⟨hs', t₂, ht₂, hmoved', hext'⟩ := hf a s₁ t₁ hs hext b s₂ h₂
  exact ⟨hs.trans hs', t₂, (bind_of_ok ht₁).trans ht₂, hmoved.trans hmoved', hext'⟩

theorem get {f g : Scan → Read α} (h : Agree s t (f s) (g t)) :
    Agree s t (MonadState.get >>= f) (MonadState.get >>= g) := h

theorem of_fails {m n : Read α} (h : Fails m) : Agree s t m n := by
  intro a s' ha
  obtain ⟨r, hr⟩ := h s
  rw [hr] at ha
  cases ha

theorem failAt {n : Read α} (cause : Cause) (place : Nat) :
    Agree s t (Regex.failAt cause place) n :=
  of_fails (fails_failAt cause place)

theorem failBack {n : Read α} (cause : Cause) (back : Nat) :
    Agree s t (Regex.failBack cause back) n :=
  of_fails (fails_failBack cause back)

theorem ite {c : Prop} [Decidable c] {m n m' n' : Read α} (h : c → Agree s t m n)
    (h' : ¬ c → Agree s t m' n') : Agree s t (if c then m else m') (if c then n else n') := by
  by_cases hc : c
  · rw [if_pos hc, if_pos hc]
    exact h hc
  · rw [if_neg hc, if_neg hc]
    exact h' hc

theorem skip (h : Extends s t) {count : Nat} (hcount : count ≤ s.rest.length) :
    Agree s t (skip count) (skip count) := by
  intro u s' hu
  obtain ⟨rfl, hmoved⟩ := skip_ok hu
  obtain ⟨hok, hmoved'⟩ := skip_of_whole h.whole count
  refine ⟨hmoved, _, hok, hmoved', ?_, h.whole⟩
  show t.rest.drop count = s.rest.drop count ++ frameEnd
  rw [h.rest, List.drop_append_of_le_length hcount]

/-- Only what the readers do where they stand counts. -/
theorem congr {m m' n n' : Read α} (h : Agree s t m' n') (hm : m s = m' s) (hn : n t = n' t) :
    Agree s t m n := by
  intro a s' ha
  rw [hn]
  exact h a s' (hm ▸ ha)

/-- What takes a token, and fails if there is none. -/
theorem take {f g : Option Token → Read α} (h : Extends s t) (hnone : Fails (f none))
    (hsome : ∀ u s' t', Moved s s' → Extends s' t' → Agree s' t' (f (some u)) (g (some u))) :
    Agree s t (take >>= f) (take >>= g) := by
  cases hrest : s.rest with
  | nil =>
    intro a s' ha
    rw [bind_of_ok (take_nil hrest)] at ha
    obtain ⟨r, hr⟩ := hnone s
    rw [hr] at ha
    cases ha
  | cons u more =>
    have hrest' : t.rest = u :: (more ++ frameEnd) := by rw [h.rest, hrest, List.cons_append]
    have hone : 1 ≤ s.rest.length := by simp [hrest]
    refine ((skip h hone).bind fun _ s' t' hs hext => hsome u s' t' hs hext).congr ?_ ?_
    · exact take_bind_cons f hrest
    · exact take_bind_cons g hrest'

/-- What takes a sign, unless it is a closing parenthesis. -/
theorem accept (h : Extends s t) {c : Char} (hc : c ≠ ')') : Agree s t (accept c) (accept c) := by
  by_cases hhead : s.rest.head? = some (.plain c)
  · have hone := one_le_length_of_head hhead
    have hhead' : t.rest.head? = some (.plain c) := by
      rw [h.rest, List.head?_append, hhead, Option.some_or]
    exact ((skip h hone).bind fun _ _ _ _ hext => pure hext true).congr (accept_of_head hhead)
      (accept_of_head hhead')
  · have hhead' : t.rest.head? ≠ some (.plain c) := by
      rw [h.rest, List.head?_append]
      cases hrest : s.rest.head? with
      | none =>
        rintro heq
        cases heq
        exact hc rfl
      | some u => simpa [hrest] using hhead
    exact (pure h false).congr (accept_of_not_head hhead) (accept_of_not_head hhead')

end Agree

/-- A run of tokens ends where it ends, whatever follows a token that is not of its kind. -/
theorem takeWhile_append_of_head {p : Token → Bool} {l l' : List Token}
    (h : ∀ u, l'.head? = some u → p u = false) : (l ++ l').takeWhile p = l.takeWhile p := by
  induction l with
  | nil =>
    cases l' with
    | nil => rfl
    | cons u more => simp [h u rfl]
  | cons u more ih => simp only [List.cons_append, List.takeWhile_cons, ih]

namespace Agree

/-- Characters of a kind that a closing parenthesis is not of; the limits may differ where no
characters are left. -/
theorem takeKind (h : Extends s t) {limit limit' : Nat} {kind : Char → Bool}
    (hkind : kind ')' = false) (hlimit : s.rest.take limit' = s.rest.take limit) :
    Agree s t (takeKind limit kind) (takeKind limit' kind) := by
  have hrun : (t.rest.take limit').takeWhile (fun u => (u.ofKind? kind).isSome) =
      (s.rest.take limit).takeWhile (fun u => (u.ofKind? kind).isSome) := by
    rw [h.rest, List.take_append, takeWhile_append_of_head, hlimit]
    intro u hu
    cases hleft : limit' - s.rest.length with
    | zero => simp [hleft] at hu
    | succ n =>
      simp only [hleft, frameEnd, List.take_succ_cons, List.head?_cons, Option.some.injEq] at hu
      subst hu
      simp [Token.ofKind?, hkind]
  have hlength : ((s.rest.take limit).takeWhile fun u => (u.ofKind? kind).isSome).length ≤
      s.rest.length :=
    Nat.le_trans (List.takeWhile_prefix _).length_le (List.take_prefix _ _).length_le
  unfold Regex.takeKind
  refine get ?_
  simp only [hrun]
  exact ite (fun _ => pure h []) fun _ => (skip h hlength).bind fun _ _ _ _ hext => pure hext _

/-- A name that is ended. -/
theorem takeName (h : Extends s t) (terminator : Char) (sort : String) :
    Agree s t (takeName terminator sort) (takeName terminator sort) := by
  unfold Regex.takeName
  refine get ?_
  by_cases hend : (s.rest.takeWhile (· != .plain terminator)).length = s.rest.length
  · -- The name is not ended.
    refine of_fails ?_
    simp only [if_pos hend]
    refine Fails.bind fun _ => ?_
    split
    · exact fails_failBack _ _
    · exact fails_failBack _ _
  · have hbody : t.rest.takeWhile (· != .plain terminator) =
        s.rest.takeWhile (· != .plain terminator) := by
      rw [h.rest, List.takeWhile_append, if_neg hend]
    have hle := (List.takeWhile_prefix (l := s.rest) (· != .plain terminator)).length_le
    have hend' : ¬ (s.rest.takeWhile (· != .plain terminator)).length = t.rest.length := by
      rw [h.rest, List.length_append]
      omega
    simp only [if_neg hend, if_neg hend', hbody]
    refine (skip h (by omega)).bind fun _ _ _ _ hext => ite (fun _ => failBack _ _) fun _ => ?_
    exact pure hext _

/-! ## §4. Escapes. -/

theorem hexEscape (h : Extends s t) (letter : Char) (count : Nat) :
    Agree s t (hexEscape letter count) (hexEscape letter count) := by
  unfold Regex.hexEscape
  refine (takeKind h (by decide) rfl).bind fun ds _ _ _ hext => ?_
  refine ite (fun _ => failBack _ _) fun _ => ?_
  refine ite (fun _ => of_fails (fails_throw _)) fun _ => ?_
  exact ite (fun _ => failBack _ _) fun _ => pure hext _

theorem nameEscape (h : Extends s t) : Agree s t nameEscape nameEscape := by
  unfold Regex.nameEscape
  refine (accept h (by decide)).bind fun brace _ _ _ hext => ?_
  refine ite (fun _ => ?_) fun _ => failBack _ _
  refine (takeName hext _ _).bind fun name _ _ _ hext => ?_
  cases charNamed? name with
  | none => exact failBack _ _
  | some c => exact pure hext _

theorem octalEscape (h : Extends s t) (ds : List Char) :
    Agree s t (octalEscape ds) (octalEscape ds) := by
  unfold Regex.octalEscape
  exact ite (fun _ => failBack _ _) fun _ => pure h _

theorem plainEscape (h : Extends s t) (c : Char) : Agree s t (plainEscape c) (plainEscape c) := by
  unfold Regex.plainEscape
  exact ite (fun _ => failBack _ _) fun _ => pure h _

theorem codeEscape (h : Extends s t) {c : Char} {code : Read Nat}
    (hcode : codeEscape? c = some code) : Agree s t code code := by
  unfold codeEscape? at hcode
  split at hcode
  · cases hcode
    exact hexEscape h _ _
  · cases hcode
    exact hexEscape h _ _
  · cases hcode
    exact hexEscape h _ _
  · cases hcode
    exact nameEscape h
  · cases hcode

theorem setEscape (h : Extends s t) (c : Char) : Agree s t (setEscape c) (setEscape c) := by
  unfold Regex.setEscape
  cases hcontrol : controlEscape? c with
  | some n => exact pure h _
  | none =>
    cases hclass : classEscape? c with
    | some m => exact pure h _
    | none =>
      cases hcode : codeEscape? c with
      | some code => exact (codeEscape h hcode).bind fun _ _ _ _ hext => pure hext _
      | none =>
        refine ite (fun _ => ?_) fun _ => ?_
        · refine (takeKind h (by decide) rfl).bind fun ds _ _ _ hext => ?_
          exact (octalEscape hext _).bind fun _ _ _ _ hext => pure hext _
        · exact (plainEscape h c).bind fun _ _ _ _ hext => pure hext _

/-! ## §5. Sets. -/

theorem setToken (h : Extends s t) (u : Token) : Agree s t (setToken u) (setToken u) := by
  cases u with
  | escaped c => exact setEscape h c
  | plain c => exact pure h _

theorem rangeOf (h : Extends s t) (first last : Token) (low high : Member) :
    Agree s t (rangeOf first last low high) (rangeOf first last low high) := by
  unfold Regex.rangeOf
  split
  · exact ite (fun _ => failBack _ _) fun _ => pure h _
  · exact failBack _ _

/-- A set that is ended; a longer text allows for more members. -/
theorem setMembers (start start' : Nat) {fuel fuel' : Nat} (hfuel : fuel ≤ fuel')
    (h : Extends s t) (acc : List Member) :
    Agree s t (setMembers start fuel acc) (setMembers start' fuel' acc) := by
  induction fuel generalizing fuel' s t acc with
  | zero => exact failAt _ _
  | succ fuel ih =>
    obtain ⟨fuel', rfl⟩ : ∃ n, fuel' = n + 1 := ⟨fuel' - 1, by omega⟩
    have hfuel : fuel ≤ fuel' := by omega
    unfold Regex.setMembers
    refine take h (fails_failAt _ _) fun u _ _ _ hext => ?_
    refine ite (fun _ => pure hext _) fun _ => ?_
    refine (setToken hext u).bind fun m _ _ _ hext => ?_
    refine (accept hext (by decide)).bind fun dash _ _ _ hext => ?_
    refine ite (fun _ => ?_) fun _ => ih hfuel hext _
    refine take hext (fails_failAt _ _) fun v _ _ _ hext => ?_
    refine ite (fun _ => pure hext _) fun _ => ?_
    refine (setToken hext v).bind fun n _ _ _ hext => ?_
    exact (rangeOf hext _ _ _ _).bind fun _ _ _ _ hext => ih hfuel hext _

theorem readSet (h : Extends s t) : Agree s t readSet readSet := by
  unfold Regex.readSet
  refine get ?_
  refine (accept h (by decide)).bind fun negated s' t' _ hext => get ?_
  have hfuel : s'.rest.length + 1 ≤ t'.rest.length + 1 := by
    rw [hext.rest, List.length_append]
    omega
  exact (setMembers _ _ hfuel hext []).bind fun _ _ _ _ hext => pure hext _

/-! ## §6. Repetitions. -/

theorem readCount (h : Extends s t) (ds : List Char) : Agree s t (readCount ds) (readCount ds) := by
  unfold Regex.readCount
  refine ite (fun _ => pure h _) fun _ => ?_
  refine ite (fun _ => of_fails (fails_throw _)) fun _ => ?_
  exact ite (fun _ => of_fails (fails_throw _)) fun _ => pure h _

theorem boundsOf (h : Extends s t) (start start' : Nat) (low high : List Char) :
    Agree s t (boundsOf start low high) (boundsOf start' low high) := by
  unfold Regex.boundsOf
  refine (readCount h low).bind fun min _ _ _ hext => ?_
  refine (readCount hext high).bind fun max _ _ _ hext => ?_
  cases max with
  | none => exact pure hext _
  | some max => exact ite (fun _ => failAt _ _) fun _ => pure hext _

theorem readUpper (h : Extends s t) (limit limit' : Nat)
    (hlimit : s.rest.length ≤ limit) (hlimit' : s.rest.length ≤ limit') (low : List Char) :
    Agree s t (readUpper limit low) (readUpper limit' low) := by
  unfold Regex.readUpper
  refine (accept h (by decide)).bind fun comma s' _ hmoved hext => ?_
  refine ite (fun _ => takeKind hext (by decide) ?_) fun _ => pure hext low
  have hle := hmoved.length_le
  rw [List.take_of_length_le (by omega), List.take_of_length_le (by omega)]

/-- Bounds that are not well formed are given back. -/
theorem readBounds (h : Extends s t) : Agree s t readBounds readBounds := by
  have hle : s.rest.length ≤ t.rest.length := by
    rw [h.rest, List.length_append]
    omega
  have hlimit : s.rest.take t.rest.length = s.rest.take s.rest.length := by
    rw [List.take_of_length_le hle, List.take_length]
  have hbrace : t.rest.head? = some (.plain '\x7d') ↔ s.rest.head? = some (.plain '\x7d') := by
    rw [h.rest]
    cases s.rest with
    | nil => simp [frameEnd]
    | cons u more => simp
  unfold Regex.readBounds
  refine get ?_
  by_cases hhead : s.rest.head? = some (.plain '\x7d')
  · simp only [if_pos hhead, if_pos (hbrace.2 hhead)]
    exact pure h none
  · simp only [if_neg hhead, if_neg (mt hbrace.1 hhead)]
    intro bounds s' hs'
    obtain ⟨low, s₁, hlow, hs'⟩ := exists_of_bind_ok hs'
    obtain ⟨hmoved₁, t₁, hlow', hmoved₁', hext₁⟩ := takeKind h (by decide) hlimit low s₁ hlow
    have hle₁ := hmoved₁.length_le
    obtain ⟨high, s₂, hhigh, hs'⟩ := exists_of_bind_ok hs'
    obtain ⟨hmoved₂, t₂, hhigh', hmoved₂', hext₂⟩ :=
      readUpper hext₁ _ t.rest.length hle₁ (by omega) low high s₂ hhigh
    obtain ⟨brace, s₃, hclose, hs'⟩ := exists_of_bind_ok hs'
    obtain ⟨hmoved₃, t₃, hclose', hmoved₃', hext₃⟩ := accept hext₂ (by decide) brace s₃ hclose
    rw [bind_of_ok hlow', bind_of_ok hhigh', bind_of_ok hclose']
    cases brace with
    | false =>
      cases hs'
      exact ⟨.refl s, t, rfl, .refl t, h⟩
    | true =>
      obtain ⟨hmoved₄, t₄, hbounds, hmoved₄', hext₄⟩ :=
        ((boundsOf hext₃ s.place t.place low high).bind fun b _ _ _ hext => pure hext (some b))
          bounds s' hs'
      exact ⟨((hmoved₁.trans hmoved₂).trans hmoved₃).trans hmoved₄, t₄, hbounds,
        ((hmoved₁'.trans hmoved₂').trans hmoved₃').trans hmoved₄', hext₄⟩

theorem readQuantifier (h : Extends s t) (c : Char) :
    Agree s t (readQuantifier c) (readQuantifier c) := by
  unfold Regex.readQuantifier
  split
  · exact pure h _
  · exact pure h _
  · exact pure h _
  · exact readBounds h

theorem readGreed (h : Extends s t) : Agree s t readGreed readGreed := by
  unfold Regex.readGreed
  refine (accept h (by decide)).bind fun few _ _ _ hext => ?_
  refine ite (fun _ => pure hext _) fun _ => ?_
  refine (accept hext (by decide)).bind fun all _ _ _ hext => ?_
  exact ite (fun _ => pure hext _) fun _ => pure hext _

/-! ## §7. Flags. -/

theorem flagsOn {fuel fuel' : Nat} (hfuel : fuel ≤ fuel') (h : Extends s t) (letter : Char)
    (acc : List Char) : Agree s t (flagsOn fuel letter acc) (flagsOn fuel' letter acc) := by
  induction fuel generalizing fuel' s t letter acc with
  | zero => exact failBack _ _
  | succ fuel ih =>
    obtain ⟨fuel', rfl⟩ : ∃ n, fuel' = n + 1 := ⟨fuel' - 1, by omega⟩
    have hfuel : fuel ≤ fuel' := by omega
    unfold Regex.flagsOn
    refine ite (fun _ => failBack _ _) fun _ => ?_
    refine ite (fun _ => failBack _ _) fun _ => ?_
    refine take h (fails_failBack _ _) fun u _ _ _ hext => ?_
    cases hstop : u.ofKind? [')', '-', ':'].contains with
    | some c =>
      simp only [hstop]
      exact pure hext _
    | none =>
      cases hnext : u.flag? with
      | some next =>
        simp only [hstop, hnext]
        exact ih hfuel hext _ _
      | none =>
        simp only [hstop, hnext]
        exact failBack _ _

theorem flagsOff {fuel fuel' : Nat} (hfuel : fuel ≤ fuel') (h : Extends s t) (letter : Char)
    (acc : List Char) : Agree s t (flagsOff fuel letter acc) (flagsOff fuel' letter acc) := by
  induction fuel generalizing fuel' s t letter acc with
  | zero => exact failBack _ _
  | succ fuel ih =>
    obtain ⟨fuel', rfl⟩ : ∃ n, fuel' = n + 1 := ⟨fuel' - 1, by omega⟩
    have hfuel : fuel ≤ fuel' := by omega
    unfold Regex.flagsOff
    refine ite (fun _ => failBack _ _) fun _ => ?_
    refine take h (fails_failBack _ _) fun u _ _ _ hext => ?_
    refine ite (fun _ => pure hext _) fun _ => ?_
    cases hnext : u.flag? with
    | some next => exact ih hfuel hext _ _
    | none => exact failBack _ _

theorem readOn {fuel fuel' : Nat} (hfuel : fuel ≤ fuel') (h : Extends s t) (first : Char) :
    Agree s t (readOn fuel first) (readOn fuel' first) := by
  unfold Regex.readOn
  exact ite (fun _ => pure h _) fun _ => flagsOn hfuel h _ _

theorem readOff {fuel fuel' : Nat} (hfuel : fuel ≤ fuel') (h : Extends s t) (stop : Char) :
    Agree s t (readOff fuel stop) (readOff fuel' stop) := by
  unfold Regex.readOff
  refine ite (fun _ => ?_) fun _ => pure h _
  refine take h (fails_failBack _ _) fun u _ _ _ hext => ?_
  cases hflag : u.flag? with
  | some letter =>
    simp only [hflag]
    exact flagsOff hfuel hext _ _
  | none =>
    simp only [hflag]
    exact failBack _ _

/-! ## §8. Groups. -/

/-- Where a closing parenthesis is expected and found. -/
theorem expectClosing (h : Extends s t) (start start' : Nat) :
    Agree s t (expectClosing start) (expectClosing start') := by
  unfold Regex.expectClosing
  by_cases hhead : s.rest.head? = some (.plain ')')
  · have hone := one_le_length_of_head hhead
    have hhead' : t.rest.head? = some (.plain ')') := by
      rw [h.rest, List.head?_append, hhead, Option.some_or]
    have hclose : Agree s t (Regex.accept ')') (Regex.accept ')') :=
      ((skip h hone).bind fun _ _ _ _ hext => pure hext true).congr (accept_of_head hhead)
        (accept_of_head hhead')
    exact hclose.bind fun closed _ _ _ hext => ite (fun _ => pure hext ()) fun _ => failAt _ _
  · intro u s' hu
    rw [bind_of_ok (accept_of_not_head hhead)] at hu
    cases hu

theorem checkName (h : Extends s t) (name : List Char) :
    Agree s t (checkName name) (checkName name) := by
  unfold Regex.checkName
  exact ite (fun _ => pure h ()) fun _ => failBack _ _

theorem skipComment (h : Extends s t) (start start' : Nat) :
    Agree s t (skipComment start) (skipComment start') := by
  unfold Regex.skipComment
  refine get ?_
  by_cases hend : (s.rest.takeWhile (· != .plain ')')).length = s.rest.length
  · -- The comment is not ended.
    refine of_fails ?_
    simp only [if_pos hend]
    exact Fails.bind fun _ => fails_failAt _ _
  · have hbody : t.rest.takeWhile (· != .plain ')') = s.rest.takeWhile (· != .plain ')') := by
      rw [h.rest, List.takeWhile_append, if_neg hend]
    have hle := (List.takeWhile_prefix (l := s.rest) (· != .plain ')')).length_le
    have hend' : ¬ (s.rest.takeWhile (· != .plain ')')).length = t.rest.length := by
      rw [h.rest, List.length_append]
      omega
    simp only [if_neg hend, if_neg hend', hbody]
    exact skip h (by omega)

/-- The rest of a line, if something is left after it. -/
theorem skipLine (h : Extends s t) (hs : Regex.skipLine s = .ok ((), s')) (hleft : s'.rest ≠ []) :
    ∃ t', Regex.skipLine t = .ok ((), t') ∧ Moved t t' ∧ Extends s' t' := by
  have hmoved : s' = s.skipped ((s.rest.takeWhile (· != .plain '\n')).length + 1) :=
    (skip_ok hs).1
  have hle := (List.takeWhile_prefix (l := s.rest) (· != .plain '\n')).length_le
  have hend : ¬ (s.rest.takeWhile (· != .plain '\n')).length = s.rest.length := by
    intro hend
    rw [hmoved] at hleft
    refine hleft (List.drop_eq_nil_of_le ?_)
    omega
  have hbody : t.rest.takeWhile (· != .plain '\n') = s.rest.takeWhile (· != .plain '\n') := by
    rw [h.rest, List.takeWhile_append, if_neg hend]
  have hagree : Agree s t Regex.skipLine Regex.skipLine := by
    unfold Regex.skipLine
    refine get ?_
    simp only [hbody]
    exact skip h (by omega)
  exact (hagree () s' hs).2

theorem readLookbehind (h : Extends s t) : Agree s t readLookbehind readLookbehind := by
  unfold Regex.readLookbehind
  refine take h (fails_failBack _ _) fun u _ _ _ hext => ?_
  split
  · exact failBack _ _
  · exact pure hext _
  · exact pure hext _
  · exact failBack _ _

end Agree

end QuasiGrammar.Regex
