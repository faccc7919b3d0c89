import QuasiGrammar.Regex.Check

/-
  QuasiGrammar.Regex.Framed
  ─────────────────────────
  What becomes of an expression inside the one that begins a pattern.  There it
  is the body of the first group, so all its groups have numbers that are
  greater by one.  A name goes with its group; a number stays, and tells the
  group before the one that it told.

      fits       whether those groups can be referred to
      measured   the widths of the groups, in the order in which they are closed
      numbers    the numbers of the groups, in the order in which they are opened
-/

namespace QuasiGrammar.Regex

/-! ## §1. New numbers. -/

mutual

/-- An item when a group has been opened before it. -/
def Item.renumbered : Item → Item
  | .literal c => .literal c
  | .any => .any
  | .set negated members => .set negated members
  | .anchor a => .anchor a
  | .group index on off body => .group (index.map (· + 1)) on off (renumberedAll body)
  | .atomic body => .atomic (renumberedAll body)
  | .repetition greed low high body => .repetition greed low high (renumberedAll body)
  | .branch alternatives => .branch (renumberedEach alternatives)
  | .look ahead negated body => .look ahead negated (renumberedAll body)
  | .reference index named => .reference (if named then index + 1 else index) named
  | .conditional index named yes no =>
      .conditional (if named then index + 1 else index) named (renumberedAll yes)
        (renumberedAll no)

/-- The items of a sequence when a group has been opened before it. -/
def renumberedAll : List Item → List Item
  | [] => []
  | i :: rest => i.renumbered :: renumberedAll rest

/-- The sequences of a choice when a group has been opened before it. -/
def renumberedEach : List (List Item) → List (List Item)
  | [] => []
  | s :: rest => renumberedAll s :: renumberedEach rest

end

/-- Whether a number tells a group that is closed, once a group has been opened before all others:
it tells the one before, which must not be that group nor one of those around the reference. -/
def tellsClosed (enclosing : List Nat) (index : Nat) : Bool :=
  !(0 :: enclosing).contains (index - 1)

mutual

/-- Whether an item reads well when a group has been opened before it.  Given are the groups around
it, and whether it stands in a lookbehind, where conditions are held to what references are. -/
def Item.fits (enclosing : List Nat) (behind : Bool) : Item → Bool
  | .literal _ | .any | .set _ _ | .anchor _ => true
  | .group index _ _ body => allFit (index.toList ++ enclosing) behind body
  | .atomic body | .repetition _ _ _ body => allFit enclosing behind body
  | .branch alternatives => eachFits enclosing behind alternatives
  | .look ahead _ body => allFit enclosing (behind || !ahead) body
  | .reference index named => named || tellsClosed enclosing index
  | .conditional index named yes no =>
      (named || !behind || tellsClosed enclosing index) &&
        (allFit enclosing behind yes && allFit enclosing behind no)

/-- Whether all items of a sequence read well. -/
def allFit (enclosing : List Nat) (behind : Bool) : List Item → Bool
  | [] => true
  | i :: rest => i.fits enclosing behind && allFit enclosing behind rest

/-- Whether all sequences of a choice read well. -/
def eachFits (enclosing : List Nat) (behind : Bool) : List (List Item) → Bool
  | [] => true
  | s :: rest => allFit enclosing behind s && eachFits enclosing behind rest

end

/-! ## §2. Widths. -/

/-- The width of a group in a table; one that is not in it counts as empty. -/
def widthIn (table : List (Nat × Width)) (index : Nat) : Width :=
  (table.lookup index).getD ⟨0, 0⟩

mutual

/-- The table of widths after an item, for the table before it. -/
def Item.measured (table : List (Nat × Width)) : Item → List (Nat × Width)
  | .literal _ | .any | .set _ _ | .anchor _ | .reference _ _ => table
  | .group none _ _ body | .atomic body | .repetition _ _ _ body | .look _ _ body =>
      allMeasured table body
  | .group (some index) _ _ body =>
      (index, widthOf (widthIn (allMeasured table body)) body) :: allMeasured table body
  | .branch alternatives => eachMeasured table alternatives
  | .conditional _ _ yes no => allMeasured (allMeasured table yes) no

/-- The table of widths after a sequence. -/
def allMeasured (table : List (Nat × Width)) : List Item → List (Nat × Width)
  | [] => table
  | i :: rest => allMeasured (i.measured table) rest

/-- The table of widths after a choice. -/
def eachMeasured (table : List (Nat × Width)) : List (List Item) → List (Nat × Width)
  | [] => table
  | s :: rest => eachMeasured (allMeasured table s) rest

end

/-! ## §3. Numbers. -/

mutual

/-- The numbers of the groups that capture in an item, by their opening parentheses from the left. -/
def Item.numbers : Item → List Nat
  | .literal _ | .any | .set _ _ | .anchor _ | .reference _ _ => []
  | .group index _ _ body => index.toList ++ allNumbers body
  | .atomic body | .repetition _ _ _ body | .look _ _ body => allNumbers body
  | .branch alternatives => eachNumbers alternatives
  | .conditional _ _ yes no => allNumbers yes ++ allNumbers no

/-- The numbers of the groups that capture in a sequence. -/
def allNumbers : List Item → List Nat
  | [] => []
  | i :: rest => i.numbers ++ allNumbers rest

/-- The numbers of the groups that capture in a choice. -/
def eachNumbers : List (List Item) → List Nat
  | [] => []
  | s :: rest => allNumbers s ++ eachNumbers rest

end

/-! ## §4. Sequences. -/

theorem renumberedAll_eq_map (items : List Item) :
    renumberedAll items = items.map Item.renumbered := by
  induction items with
  | nil => rfl
  | cons i rest ih => rw [renumberedAll, ih, List.map_cons]

theorem allFit_append (enclosing : List Nat) (behind : Bool) (items more : List Item) :
    allFit enclosing behind (items ++ more) =
      (allFit enclosing behind items && allFit enclosing behind more) := by
  induction items with
  | nil => rfl
  | cons i rest ih => rw [List.cons_append, allFit, ih, allFit, Bool.and_assoc]

theorem allFit_reverse (enclosing : List Nat) (behind : Bool) (items : List Item) :
    allFit enclosing behind items.reverse = allFit enclosing behind items := by
  induction items with
  | nil => rfl
  | cons i rest ih =>
    rw [List.reverse_cons, allFit_append, ih, allFit, allFit, Bool.and_true, allFit, Bool.and_comm]

theorem renumberedAll_reverse (items : List Item) :
    renumberedAll items.reverse = (renumberedAll items).reverse := by
  rw [renumberedAll_eq_map, renumberedAll_eq_map, List.map_reverse]

theorem allMeasured_append (table : List (Nat × Width)) (items more : List Item) :
    allMeasured table (items ++ more) = allMeasured (allMeasured table items) more := by
  induction items generalizing table with
  | nil => rfl
  | cons i rest ih => rw [List.cons_append, allMeasured, ih, allMeasured]

theorem allNumbers_append (items more : List Item) :
    allNumbers (items ++ more) = allNumbers items ++ allNumbers more := by
  induction items with
  | nil => rfl
  | cons i rest ih => rw [List.cons_append, allNumbers, ih, allNumbers, List.append_assoc]

section Repeated

variable (i : Item)

@[simp]
theorem isAnchor_renumbered : i.renumbered.isAnchor = i.isAnchor := by
  cases i <;> rfl

@[simp]
theorem isRepetition_renumbered : i.renumbered.isRepetition = i.isRepetition := by
  cases i <;> rfl

/-- The item under a repetition is either the item or, for a group without number and flags, its
body. -/
theorem repeated_cases :
    (∃ body, i = .group none [] [] body ∧ repeated i = body) ∨ repeated i = [i] := by
  unfold repeated
  split
  · exact .inl ⟨_, rfl, rfl⟩
  · exact .inr rfl

theorem repeated_renumbered : repeated i.renumbered = renumberedAll (repeated i) := by
  cases i with
  | group index on off body =>
    cases index with
    | some index => rfl
    | none =>
      cases on with
      | cons f on => rfl
      | nil => cases off <;> rfl
  | _ => rfl

theorem allFit_repeated (enclosing : List Nat) (behind : Bool) :
    allFit enclosing behind (repeated i) = i.fits enclosing behind := by
  rcases repeated_cases i with ⟨body, rfl, h⟩ | h
  · rw [h, Item.fits]
    rfl
  · rw [h, allFit, allFit, Bool.and_true]

theorem allMeasured_repeated (table : List (Nat × Width)) :
    allMeasured table (repeated i) = i.measured table := by
  rcases repeated_cases i with ⟨body, rfl, h⟩ | h
  · rw [h, Item.measured]
  · rw [h, allMeasured, allMeasured]

theorem allNumbers_repeated : allNumbers (repeated i) = i.numbers := by
  rcases repeated_cases i with ⟨body, rfl, h⟩ | h
  · rw [h, Item.numbers]
    rfl
  · rw [h, allNumbers, allNumbers, List.append_nil]

end Repeated

/-! ## §5. The frame. -/

/-- Blanks, as many as there are. -/
def blanks (greed : Greed) : Item := .repetition greed 0 none [.set false [.cls .space false]]

/-- The items of an expression between what begins a pattern and what follows the tag. -/
def framedItems (nextGroup : Nat) (items : List Item) : List Item :=
  [blanks .possessive, .group (some 1) [] [] (renumberedAll items), blanks .greedy,
    .group (some (nextGroup + 1)) [] [] [.literal '`'.toNat]]

/-- The expression that begins a pattern. -/
def Expression.framed (e : Expression) : Expression where
  items := framedItems e.nextGroup e.items
  widths := allMeasured [] (framedItems e.nextGroup e.items)
  flags := e.flags
  nextGroup := e.nextGroup + 2

end QuasiGrammar.Regex
