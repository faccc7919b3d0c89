import QuasiGrammar.Yaml.Token

/-
  QuasiGrammar.Proofs.Yaml.Tokens
  ───────────────────────────────
  The defects that the tokens of a YAML text can have.

      Within L P       a step that ends in no other defect than those of `L`,
                       and with no other result than those of `P`
      IsTokenDefect    a code point that is no character, and a number in a
                       directive with too many digits
      tokens_defect    tokens have no other defect
-/

namespace QuasiGrammar.Yaml

open Number Text

/-! ## §1. How a step can end. -/

/-- A defect that the step ends in, and a result that it ends with, satisfy their conditions; the
step may also refuse, or break off. -/
def Within {α : Type} (L : Defect → Prop) (P : α → Prop) : Step α → Prop
  | .ok a => P a
  | .error .malformed | .error .strayHalf => True
  | .error (.defect d) => L d

section Steps

variable {α β : Type} {L : Defect → Prop} {P : α → Prop} {Q : β → Prop}

theorem within_bind {x : Step α} {f : α → Step β} (hx : Within L P x)
    (hf : ∀ a, P a → Within L Q (f a)) : Within L Q (x >>= f) := by
  match x, hx with
  | .ok a, h => exact hf a h
  | .error .malformed, _ => trivial
  | .error .strayHalf, _ => trivial
  | .error (.defect _), h => exact h

theorem within_mono {L' : Defect → Prop} {P' : α → Prop} {x : Step α} (hL : ∀ d, L d → L' d)
    (hP : ∀ a, P a → P' a) (hx : Within L P x) : Within L' P' x := by
  match x, hx with
  | .ok a, h => exact hP a h
  | .error .malformed, _ => trivial
  | .error .strayHalf, _ => trivial
  | .error (.defect d), h => exact hL d h

theorem within_foldlM {γ : Type} {f : α → γ → Step α} {l : List γ} {a : α} (ha : P a)
    (hf : ∀ a c, P a → Within L P (f a c)) : Within L P (l.foldlM f a) := by
  induction l generalizing a with
  | nil => exact ha
  | cons c l ih =>
    rw [List.foldlM_cons]
    exact within_bind (hf a c ha) fun b hb => ih hb

theorem within_map {x : Step α} {f : α → β} (hx : Within L (fun a => Q (f a)) x) :
    Within L Q (f <$> x) := by
  match x, hx with
  | .ok _, h => exact h
  | .error .malformed, _ => trivial
  | .error .strayHalf, _ => trivial
  | .error (.defect _), h => exact h

end Steps

/-! ## §2. Defects of tokens. -/

/-- The defects of tokens: an escape that spells no character, and a number in a directive with
too many digits. -/
inductive IsTokenDefect : Defect → Prop
  | noCharacter : IsTokenDefect .noCharacter
  | codePointTooLarge : IsTokenDefect .codePointTooLarge
  | tooManyDigits {n : Nat} (h : maxDigits < n) : IsTokenDefect (.tooManyDigits n)

/-- A step in reading tokens ends in no other defect than theirs. -/
def ReadsTokens {α : Type} (x : Step α) : Prop := Within IsTokenDefect (fun _ => True) x

section Steps

variable {α β : Type}

theorem readsTokens_bind {x : Step α} {f : α → Step β} (hx : ReadsTokens x)
    (hf : ∀ a, ReadsTokens (f a)) : ReadsTokens (x >>= f) :=
  within_bind hx fun a _ => hf a

theorem readsTokens_ite {p : Prop} [Decidable p] {x y : Step α} (hx : ReadsTokens x)
    (hy : ReadsTokens y) : ReadsTokens (if p then x else y) := by
  split
  · exact hx
  · exact hy

/-- A last step that only puts a result together. -/
theorem readsTokens_bind_pure {x : Step α} {f : α → β} (hx : ReadsTokens x) :
    ReadsTokens (x >>= fun a => pure (f a)) :=
  readsTokens_bind hx fun _ => trivial

end Steps

/-! ### Scalars -/

theorem readsTokens_dropComment (c : Cursor) : ReadsTokens c.dropComment := by
  unfold Cursor.dropComment
  exact readsTokens_ite trivial trivial

theorem readsTokens_quotedBreaks (fuel : Nat) (c : Cursor) : ReadsTokens (quotedBreaks fuel c) := by
  induction fuel generalizing c with
  | zero => exact trivial
  | succ fuel ih =>
    unfold quotedBreaks
    refine readsTokens_ite trivial ?_
    simp only
    split
    · exact trivial
    · exact readsTokens_bind_pure (ih _)

theorem readsTokens_quotedSpace (c : Cursor) : ReadsTokens (quotedSpace c) := by
  unfold quotedSpace
  simp only
  split
  · exact readsTokens_bind_pure (readsTokens_quotedBreaks _ _)
  · split <;> exact trivial

theorem readsTokens_codeChar (n : Nat) : ReadsTokens (codeChar n) := by
  unfold codeChar
  split
  · exact .codePointTooLarge
  · split
    · exact .noCharacter
    · split <;> exact trivial

theorem readsTokens_quotedEscape (c : Cursor) : ReadsTokens (quotedEscape c) := by
  unfold quotedEscape
  split
  · exact trivial
  · split
    · exact trivial
    · simp only
      split
      · exact trivial
      · exact readsTokens_bind_pure (readsTokens_codeChar _)
    · split
      · exact readsTokens_quotedBreaks _ _
      · exact trivial

theorem readsTokens_quotedText (double : Bool) (fuel : Nat) (c : Cursor) :
    ReadsTokens (quotedText double fuel c) := by
  induction fuel generalizing c with
  | zero => exact trivial
  | succ fuel ih =>
    unfold quotedText
    split
    · exact trivial
    · split
      · exact readsTokens_bind (readsTokens_quotedSpace c) fun _ => readsTokens_bind_pure (ih _)
      · split
        · exact trivial
        · split
          · exact readsTokens_bind (readsTokens_quotedEscape _) fun _ => readsTokens_bind_pure (ih _)
          · split
            · split
              · exact readsTokens_bind_pure (ih _)
              · exact trivial
            · exact readsTokens_bind_pure (ih _)

theorem readsTokens_blockSigns (c : Cursor) : ReadsTokens (blockSigns c) := by
  unfold blockSigns
  exact readsTokens_ite trivial trivial

theorem readsTokens_blockScalar (fold : Bool) (indent : Int) (c : Cursor) :
    ReadsTokens (blockScalar fold indent c) := by
  refine readsTokens_bind (readsTokens_blockSigns _) fun _ => ?_
  refine readsTokens_bind (readsTokens_dropComment _) fun _ => ?_
  simp only
  exact readsTokens_ite trivial trivial

/-! ### Parts of tokens -/

namespace Lexer

theorem readsTokens_percentOctets (fuel : Nat) (c : Cursor) : ReadsTokens (percentOctets fuel c) := by
  induction fuel generalizing c with
  | zero => exact trivial
  | succ fuel ih =>
    unfold percentOctets
    exact readsTokens_ite (readsTokens_ite trivial (readsTokens_bind_pure (ih _))) trivial

theorem readsTokens_tagChars (fuel : Nat) (c : Cursor) : ReadsTokens (tagChars fuel c) := by
  induction fuel generalizing c with
  | zero => exact trivial
  | succ fuel ih =>
    unfold tagChars
    split
    · exact trivial
    · refine readsTokens_bind (readsTokens_percentOctets _ _) fun _ => ?_
      simp only
      split
      · exact trivial
      · exact readsTokens_bind_pure (ih _)
    · exact readsTokens_ite (readsTokens_bind_pure (ih _)) trivial

theorem readsTokens_tagText (c : Cursor) : ReadsTokens (tagText c) :=
  readsTokens_ite (readsTokens_tagChars _ _) trivial

theorem readsTokens_tagHandle (c : Cursor) : ReadsTokens (tagHandle c) := by
  unfold tagHandle
  exact readsTokens_ite trivial (readsTokens_ite trivial (readsTokens_ite trivial trivial))

theorem readsTokens_directiveNumber (c : Cursor) : ReadsTokens (directiveNumber c) := by
  unfold directiveNumber
  refine readsTokens_ite trivial ?_
  split
  · next h => exact .tooManyDigits h
  · exact trivial

theorem readsTokens_versionValue (c : Cursor) : ReadsTokens (versionValue c) :=
  readsTokens_bind (readsTokens_directiveNumber _) fun _ =>
    readsTokens_ite trivial <|
      readsTokens_bind (readsTokens_directiveNumber _) fun _ => readsTokens_ite trivial trivial

theorem readsTokens_handleValue (c : Cursor) : ReadsTokens (handleValue c) :=
  readsTokens_bind (readsTokens_tagHandle _) fun _ =>
    readsTokens_ite trivial <|
      readsTokens_bind (readsTokens_tagText _) fun _ => readsTokens_ite trivial trivial

theorem readsTokens_directiveToken (c : Cursor) : ReadsTokens (directiveToken c) := by
  unfold directiveToken
  refine readsTokens_ite trivial ?_
  -- Whatever a directive says, it ends with its line.
  have hend (value : Directive × Cursor) : ReadsTokens
      (value.2.dropComment >>= fun c => pure (Token.directive value.1, c)) :=
    readsTokens_bind_pure (readsTokens_dropComment _)
  exact readsTokens_ite (readsTokens_bind (readsTokens_versionValue _) hend)
    (readsTokens_ite (readsTokens_bind (readsTokens_handleValue _) hend) (hend (.other, _)))

theorem readsTokens_anchorName (c : Cursor) : ReadsTokens (anchorName c) := by
  unfold anchorName
  exact readsTokens_ite trivial trivial

theorem readsTokens_tagToken (c : Cursor) : ReadsTokens (tagToken c) := by
  unfold tagToken
  -- Each way to write a tag ends with the same check.
  have hend (tag : Token × Cursor) :
      ReadsTokens (if endsField tag.2.peek then pure tag else refuse) :=
    readsTokens_ite trivial trivial
  refine readsTokens_ite ?_ (readsTokens_ite (hend (_, _)) (readsTokens_ite ?_ ?_))
  · exact readsTokens_bind (readsTokens_tagText _) fun _ => readsTokens_ite (hend (_, _)) trivial
  · exact readsTokens_bind (readsTokens_tagHandle _) fun _ =>
      readsTokens_bind (readsTokens_tagText _) fun _ => hend (_, _)
  · exact readsTokens_bind (readsTokens_tagText _) fun _ => hend (_, _)

theorem readsTokens_quotedToken (double : Bool) (c : Cursor) :
    ReadsTokens (quotedToken double c) :=
  readsTokens_bind_pure (readsTokens_quotedText _ _ _)

/-! ### The state between tokens -/

variable (l : Lexer)

theorem readsTokens_dropStale : ReadsTokens l.dropStale := readsTokens_ite trivial trivial

theorem readsTokens_dropKey : ReadsTokens l.dropKey := readsTokens_ite trivial trivial

theorem readsTokens_saveKey : ReadsTokens l.saveKey :=
  readsTokens_ite trivial (readsTokens_bind_pure (readsTokens_dropKey l))

theorem readsTokens_openBlock (t : Token) : ReadsTokens (l.openBlock t) := by
  unfold openBlock
  refine readsTokens_ite trivial (readsTokens_ite trivial ?_)
  split <;> exact trivial

theorem readsTokens_settle : ReadsTokens l.settle :=
  readsTokens_ite trivial (readsTokens_bind_pure (readsTokens_dropStale l))

theorem readsTokens_finish : ReadsTokens l.finish :=
  readsTokens_bind_pure (readsTokens_dropKey _)

/-! ### One token -/

theorem readsTokens_betweenDocuments : ReadsTokens l.betweenDocuments :=
  readsTokens_bind_pure (readsTokens_dropKey _)

/-- A sign of a block, before which a block may open. -/
theorem readsTokens_blockSign (opening : Token) (f : Lexer → Lexer) (g : Lexer → Lexer) :
    ReadsTokens (l.openBlock opening >>= fun l => (f l).dropKey >>= fun l => pure (g l)) :=
  readsTokens_bind (readsTokens_openBlock l opening) fun _ =>
    readsTokens_bind_pure (readsTokens_dropKey _)

theorem readsTokens_valueSign : ReadsTokens l.valueSign := by
  unfold valueSign
  split
  · exact trivial
  · exact readsTokens_blockSign l _ _ _

theorem readsTokens_nodeToken {read : Cursor → Step (Token × Cursor)}
    (h : ∀ c, ReadsTokens (read c)) : ReadsTokens (l.nodeToken read) :=
  readsTokens_bind (readsTokens_saveKey l) fun _ => readsTokens_bind_pure (h _)

theorem readsTokens_blockToken (fold : Bool) : ReadsTokens (l.blockToken fold) :=
  readsTokens_bind (readsTokens_dropKey _) fun _ =>
    readsTokens_bind_pure (readsTokens_blockScalar _ _ _)

theorem readsTokens_token (x : Char) : ReadsTokens (l.token x) := by
  unfold token
  simp only
  split
  · exact readsTokens_ite
      (readsTokens_bind (readsTokens_betweenDocuments l) fun _ =>
        readsTokens_bind_pure (readsTokens_directiveToken _)) trivial
  · exact readsTokens_bind_pure (readsTokens_saveKey l)
  · exact readsTokens_bind_pure (readsTokens_saveKey l)
  · exact readsTokens_bind_pure (readsTokens_dropKey l)
  · exact readsTokens_bind_pure (readsTokens_dropKey l)
  · exact readsTokens_bind_pure (readsTokens_dropKey _)
  · exact readsTokens_nodeToken l fun _ => readsTokens_bind_pure (readsTokens_anchorName _)
  · exact readsTokens_nodeToken l fun _ => readsTokens_bind_pure (readsTokens_anchorName _)
  · exact readsTokens_nodeToken l readsTokens_tagToken
  · exact readsTokens_nodeToken l (readsTokens_quotedToken false)
  · exact readsTokens_nodeToken l (readsTokens_quotedToken true)
  · -- The signs of documents and blocks, the blocks of text, and plain scalars.
    refine readsTokens_ite (readsTokens_bind_pure (readsTokens_betweenDocuments l)) ?_
    refine readsTokens_ite (readsTokens_bind_pure (readsTokens_betweenDocuments l)) ?_
    refine readsTokens_ite (readsTokens_blockSign l _ _ _) ?_
    refine readsTokens_ite (readsTokens_blockSign l _ _ _) ?_
    refine readsTokens_ite (readsTokens_valueSign l) ?_
    refine readsTokens_ite (readsTokens_blockToken l false) ?_
    refine readsTokens_ite (readsTokens_blockToken l true) ?_
    exact readsTokens_ite (readsTokens_bind_pure (readsTokens_saveKey l)) trivial

theorem readsTokens_step : ReadsTokens l.step := by
  refine readsTokens_bind (readsTokens_dropStale _) fun l => ?_
  simp only
  split
  · exact readsTokens_finish _
  · exact readsTokens_bind (readsTokens_token _ _) fun l => readsTokens_settle l

/-! ## §3. All tokens. -/

/-- A fault at which the reading of tokens stops is that of a step. -/
theorem run_defect (fuel : Nat) {d : Defect} (h : (run fuel l).2 = some (.defect d)) :
    IsTokenDefect d := by
  induction fuel generalizing l with
  | zero => cases h
  | succ fuel ih =>
    have hstep := readsTokens_step l
    unfold run at h
    split at h
    · next f hf =>
      -- The fault is that of the next step.
      cases h
      rw [hf] at hstep
      exact hstep
    · split at h
      · cases h
      · exact ih _ h

end Lexer

/-- **The defects of the tokens of a text are escapes that spell no character, and numbers in
directives with too many digits.** -/
theorem tokens_defect {cs : List Char} {d : Defect} (h : (tokens cs).2 = some (.defect d)) :
    IsTokenDefect d :=
  Lexer.run_defect (.start cs) (cs.length + 2) h

end QuasiGrammar.Yaml
