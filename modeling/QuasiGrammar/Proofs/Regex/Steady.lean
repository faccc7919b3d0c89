import QuasiGrammar.Regex.Framed

/-
  QuasiGrammar.Proofs.Regex.Steady
  ────────────────────────────────
  **An expression that tells its groups by their names, and none in a lookbehind,
  fits, and has the flaws inside the frame that it has alone.**

  A lookbehind is judged by its width, and that can only change with a reference
  in it, whose group may be another one inside the frame.
-/

namespace QuasiGrammar.Regex

mutual

/-- Whether an item tells groups by their names alone, and, in a lookbehind, refers to none. -/
def Item.steady (behind : Bool) : Item → Bool
  | .literal _ | .any | .set _ _ | .anchor _ => true
  | .group _ _ _ body | .atomic body | .repetition _ _ _ body => allSteady behind body
  | .branch alternatives => eachSteady behind alternatives
  | .look ahead _ body => allSteady (behind || !ahead) body
  | .reference _ named => named && !behind
  | .conditional _ named yes no => named && (allSteady behind yes && allSteady behind no)

/-- Whether all items of a sequence are steady. -/
def allSteady (behind : Bool) : List Item → Bool
  | [] => true
  | i :: rest => i.steady behind && allSteady behind rest

/-- Whether all sequences of a choice are steady. -/
def eachSteady (behind : Bool) : List (List Item) → Bool
  | [] => true
  | s :: rest => allSteady behind s && eachSteady behind rest

end

mutual

theorem Item.fits_of_steady (enclosing : List Nat) (behind : Bool) (i : Item)
    (h : i.steady behind = true) : i.fits enclosing behind = true := by
  cases i with
  | literal c => rfl
  | any => rfl
  | set negated members => rfl
  | anchor a => rfl
  | group index on off body => exact allFit_of_steady _ behind body h
  | atomic body => exact allFit_of_steady _ behind body h
  | repetition greed low high body => exact allFit_of_steady _ behind body h
  | branch alternatives => exact eachFits_of_steady _ behind alternatives h
  | look ahead negated body => exact allFit_of_steady _ (behind || !ahead) body h
  | reference index named =>
    obtain ⟨hnamed, -⟩ := Bool.and_eq_true_iff.1 h
    rw [Item.fits, hnamed, Bool.true_or]
  | conditional index named yes no =>
    obtain ⟨hnamed, hbody⟩ := Bool.and_eq_true_iff.1 h
    obtain ⟨hyes, hno⟩ := Bool.and_eq_true_iff.1 hbody
    rw [Item.fits, hnamed, allFit_of_steady _ behind yes hyes, allFit_of_steady _ behind no hno,
      Bool.true_or, Bool.true_or]
    rfl

theorem allFit_of_steady (enclosing : List Nat) (behind : Bool) (items : List Item)
    (h : allSteady behind items = true) : allFit enclosing behind items = true := by
  cases items with
  | nil => rfl
  | cons i rest =>
    obtain ⟨hi, hrest⟩ := Bool.and_eq_true_iff.1 h
    rw [allFit, i.fits_of_steady enclosing behind hi, allFit_of_steady enclosing behind rest hrest]
    rfl

theorem eachFits_of_steady (enclosing : List Nat) (behind : Bool)
    (alternatives : List (List Item)) (h : eachSteady behind alternatives = true) :
    eachFits enclosing behind alternatives = true := by
  cases alternatives with
  | nil => rfl
  | cons s rest =>
    obtain ⟨hs, hrest⟩ := Bool.and_eq_true_iff.1 h
    rw [eachFits, allFit_of_steady enclosing behind s hs,
      eachFits_of_steady enclosing behind rest hrest]
    rfl

end

section

variable (groups groups' : Nat → Width)

mutual

/-- What refers to no group is as wide under new numbers. -/
theorem Item.width_renumbered (i : Item) (h : i.steady true = true) :
    i.renumbered.width groups' = i.width groups := by
  cases i with
  | literal c => rfl
  | any => rfl
  | set negated members => rfl
  | anchor a => rfl
  | group index on off body =>
    rw [Item.renumbered, Item.width, Item.width, sumOfWidths_renumbered body h]
  | atomic body =>
    rw [Item.renumbered, Item.width, Item.width, sumOfWidths_renumbered body h]
  | repetition greed low high body =>
    rw [Item.renumbered, Item.width, Item.width, sumOfWidths_renumbered body h]
  | branch alternatives => exact choiceOfWidths_renumbered alternatives h
  | look ahead negated body => rfl
  | reference index named =>
    obtain ⟨-, hnone⟩ := Bool.and_eq_true_iff.1 h
    cases hnone
  | conditional index named yes no =>
    obtain ⟨-, hbody⟩ := Bool.and_eq_true_iff.1 h
    obtain ⟨hyes, hno⟩ := Bool.and_eq_true_iff.1 hbody
    rw [Item.renumbered, Item.width, Item.width, sumOfWidths_renumbered yes hyes,
      sumOfWidths_renumbered no hno]

theorem sumOfWidths_renumbered (items : List Item)
    (h : allSteady true items = true) :
    sumOfWidths groups' (renumberedAll items) = sumOfWidths groups items := by
  cases items with
  | nil => rfl
  | cons i rest =>
    obtain ⟨hi, hrest⟩ := Bool.and_eq_true_iff.1 h
    rw [renumberedAll, sumOfWidths, sumOfWidths, i.width_renumbered hi,
      sumOfWidths_renumbered rest hrest]

theorem choiceOfWidths_renumbered (alternatives : List (List Item))
    (h : eachSteady true alternatives = true) :
    choiceOfWidths groups' (renumberedEach alternatives) = choiceOfWidths groups alternatives := by
  cases alternatives with
  | nil => rfl
  | cons s rest =>
    obtain ⟨hs, hrest⟩ := Bool.and_eq_true_iff.1 h
    rw [renumberedEach, choiceOfWidths, choiceOfWidths, sumOfWidths_renumbered s hs,
      choiceOfWidths_renumbered rest hrest]

end

mutual

/-- The flaws under new numbers. -/
theorem Item.flaw?_renumbered (template behind : Bool) (i : Item) (h : i.steady behind = true) :
    i.renumbered.flaw? groups' template = i.flaw? groups template ∧
      i.renumbered.looksTooFar groups' = i.looksTooFar groups := by
  cases i with
  | literal c => exact ⟨rfl, rfl⟩
  | any => exact ⟨rfl, rfl⟩
  | set negated members => exact ⟨rfl, rfl⟩
  | anchor a => exact ⟨rfl, rfl⟩
  | group index on off body => exact flawIn?_renumbered template behind body h
  | atomic body => exact flawIn?_renumbered template behind body h
  | repetition greed low high body =>
    obtain ⟨hflaw, hfar⟩ := flawIn?_renumbered template behind body h
    refine ⟨?_, hfar⟩
    rw [Item.renumbered, Item.flaw?, Item.flaw?, hflaw]
  | branch alternatives => exact flawAmong?_renumbered template behind alternatives h
  | look ahead negated body =>
    obtain ⟨hflaw, hfar⟩ := flawIn?_renumbered template (behind || !ahead) body h
    cases ahead with
    | true => exact ⟨hflaw, hfar⟩
    | false =>
      have hsteady : allSteady (behind || !false) body = true := h
      rw [Bool.not_false, Bool.or_true] at hsteady
      have hwidth : widthOf groups' (renumberedAll body) = widthOf groups body := by
        rw [widthOf, widthOf, sumOfWidths_renumbered groups groups' body hsteady]
      refine ⟨?_, ?_⟩
      · rw [Item.renumbered, Item.flaw?, Item.flaw?, hwidth, hflaw]
      · rw [Item.renumbered, Item.looksTooFar, Item.looksTooFar, hwidth, hfar]
  | reference index named => exact ⟨rfl, rfl⟩
  | conditional index named yes no =>
    obtain ⟨-, hbody⟩ := Bool.and_eq_true_iff.1 h
    obtain ⟨hyes, hno⟩ := Bool.and_eq_true_iff.1 hbody
    obtain ⟨hflawYes, hfarYes⟩ := flawIn?_renumbered template behind yes hyes
    obtain ⟨hflawNo, hfarNo⟩ := flawIn?_renumbered template behind no hno
    refine ⟨?_, ?_⟩
    · rw [Item.renumbered, Item.flaw?, Item.flaw?, hflawYes, hflawNo]
    · rw [Item.renumbered, Item.looksTooFar, Item.looksTooFar, hfarYes, hfarNo]

theorem flawIn?_renumbered (template behind : Bool) (items : List Item)
    (h : allSteady behind items = true) :
    flawIn? groups' template (renumberedAll items) = flawIn? groups template items ∧
      anyLooksTooFar groups' (renumberedAll items) = anyLooksTooFar groups items := by
  cases items with
  | nil => exact ⟨rfl, rfl⟩
  | cons i rest =>
    obtain ⟨hi, hrest⟩ := Bool.and_eq_true_iff.1 h
    obtain ⟨hflaw, hfar⟩ := i.flaw?_renumbered template behind hi
    obtain ⟨hflawRest, hfarRest⟩ := flawIn?_renumbered template behind rest hrest
    refine ⟨?_, ?_⟩
    · rw [renumberedAll, flawIn?, flawIn?, hflaw, hflawRest]
    · rw [renumberedAll, anyLooksTooFar, anyLooksTooFar, hfar, hfarRest]

theorem flawAmong?_renumbered (template behind : Bool) (alternatives : List (List Item))
    (h : eachSteady behind alternatives = true) :
    flawAmong? groups' template (renumberedEach alternatives) =
        flawAmong? groups template alternatives ∧
      anyAmongLooksTooFar groups' (renumberedEach alternatives) =
        anyAmongLooksTooFar groups alternatives := by
  cases alternatives with
  | nil => exact ⟨rfl, rfl⟩
  | cons s rest =>
    obtain ⟨hs, hrest⟩ := Bool.and_eq_true_iff.1 h
    obtain ⟨hflaw, hfar⟩ := flawIn?_renumbered template behind s hs
    obtain ⟨hflawRest, hfarRest⟩ := flawAmong?_renumbered template behind rest hrest
    refine ⟨?_, ?_⟩
    · rw [renumberedEach, flawAmong?, flawAmong?, hflaw, hflawRest]
    · rw [renumberedEach, anyAmongLooksTooFar, anyAmongLooksTooFar, hfar, hfarRest]

end

end

end QuasiGrammar.Regex
