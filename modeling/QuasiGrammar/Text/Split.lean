/-
  QuasiGrammar.Text.Split
  ───────────────────────
  Ways to cut a text: at every place where a separator stands, at the last
  such place, and after a given beginning.
-/

namespace QuasiGrammar.Text

/-- The parts of a text between the separators; a text without one is a single part. -/
def splitAll (sep : Char) : List Char → List (List Char)
  | [] => [[]]
  | c :: rest =>
      if c = sep then [] :: splitAll sep rest
      else
        match splitAll sep rest with
        | [] => [[c]]
        | part :: parts => (c :: part) :: parts

/-- The texts before and after the last separator. -/
def splitLast? (sep : Char) : List Char → Option (List Char × List Char)
  | [] => none
  | c :: rest =>
      match splitLast? sep rest with
      | some (before, after) => some (c :: before, after)
      | none => if c = sep then some ([], rest) else none

/-- What follows a given beginning of a text. -/
def dropText? : List Char → List Char → Option (List Char)
  | [], cs => some cs
  | k :: ks, c :: cs => if k = c then dropText? ks cs else none
  | _ :: _, [] => none

theorem dropText?_eq_some_iff {beginning cs rest : List Char} :
    dropText? beginning cs = some rest ↔ cs = beginning ++ rest := by
  induction beginning generalizing cs with
  | nil => simp [dropText?]
  | cons k ks ih =>
    cases cs with
    | nil => simp [dropText?]
    | cons c cs =>
      by_cases h : k = c
      · simp [dropText?, h, ih]
      · simp [dropText?, h, Ne.symm h]

theorem splitAll_ne_nil (sep : Char) (cs : List Char) : splitAll sep cs ≠ [] := by
  cases cs with
  | nil => simp [splitAll]
  | cons c rest =>
    by_cases h : c = sep
    · simp [splitAll, h]
    · simp only [splitAll, if_neg h]
      split <;> simp

theorem splitAll_of_notMem {sep : Char} {cs : List Char} (h : sep ∉ cs) :
    splitAll sep cs = [cs] := by
  induction cs with
  | nil => rfl
  | cons c rest ih =>
    obtain ⟨hc, hr⟩ := not_or.1 (mt List.mem_cons.2 h)
    rw [splitAll, if_neg (Ne.symm hc), ih hr]

/-- The first part ends at the first separator. -/
theorem splitAll_append {sep : Char} {part : List Char} (h : sep ∉ part) (rest : List Char) :
    splitAll sep (part ++ sep :: rest) = part :: splitAll sep rest := by
  induction part with
  | nil => simp [splitAll]
  | cons c more ih =>
    obtain ⟨hc, hm⟩ := not_or.1 (mt List.mem_cons.2 h)
    rw [List.cons_append, splitAll, if_neg (Ne.symm hc), ih hm]

/-- The last part begins at the last separator. -/
theorem splitAll_concat {sep : Char} (before : List Char) {part : List Char} (h : sep ∉ part) :
    splitAll sep (before ++ sep :: part) = splitAll sep before ++ [part] := by
  induction before with
  | nil => simp [splitAll, splitAll_of_notMem h]
  | cons c more ih =>
    by_cases hc : c = sep
    · simp [splitAll, hc, ih]
    · rw [List.cons_append, splitAll, if_neg hc, splitAll, if_neg hc, ih]
      cases hm : splitAll sep more with
      | nil => exact absurd hm (splitAll_ne_nil sep more)
      | cons p ps => simp

theorem splitLast?_eq_none_iff {sep : Char} {cs : List Char} :
    splitLast? sep cs = none ↔ sep ∉ cs := by
  induction cs with
  | nil => simp [splitLast?]
  | cons c rest ih =>
    cases h : splitLast? sep rest with
    | some p =>
      have : sep ∈ rest := by simpa [h] using ih
      simp [splitLast?, h, this]
    | none =>
      have : sep ∉ rest := by simpa [h] using ih
      by_cases hc : c = sep
      · simp [splitLast?, h, hc]
      · simp [splitLast?, h, hc, this, Ne.symm hc]

/-- A cut at the last separator gives the text back, and no separator follows it. -/
theorem splitLast?_eq_some {sep : Char} {cs before after : List Char}
    (h : splitLast? sep cs = some (before, after)) :
    cs = before ++ sep :: after ∧ sep ∉ after := by
  induction cs generalizing before with
  | nil => simp [splitLast?] at h
  | cons c rest ih =>
    cases hr : splitLast? sep rest with
    | some p =>
      simp only [splitLast?, hr, Option.some.injEq, Prod.mk.injEq] at h
      obtain ⟨rfl, rfl⟩ := h
      obtain ⟨he, hn⟩ := ih hr
      exact ⟨by simpa using he, hn⟩
    | none =>
      by_cases hc : c = sep
      · simp only [splitLast?, hr, hc, if_true, Option.some.injEq, Prod.mk.injEq] at h
        obtain ⟨rfl, rfl⟩ := h
        exact ⟨by simp [hc], splitLast?_eq_none_iff.1 hr⟩
      · simp [splitLast?, hr, hc] at h

/-- A text with a separator is cut where none follows. -/
theorem splitLast?_append {sep : Char} {after : List Char} (h : sep ∉ after)
    (before : List Char) : splitLast? sep (before ++ sep :: after) = some (before, after) := by
  induction before with
  | nil => simp [splitLast?, splitLast?_eq_none_iff.2 h]
  | cons c rest ih => simp [splitLast?, ih]

end QuasiGrammar.Text
