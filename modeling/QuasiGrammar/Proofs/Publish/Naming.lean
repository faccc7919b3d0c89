import QuasiGrammar.Proofs.Publish.Order
import QuasiGrammar.Proofs.Regex.Escape
import QuasiGrammar.Publish.Naming

/-
  QuasiGrammar.Proofs.Publish.Naming
  ──────────────────────────────────
  **A store knows the names that it gives, and one name more for each of them:
  the one with a line feed after it.**

  The expression of the names reads well for every prefix (`read_namePattern`),
  and what it matches from the beginning is what the store takes for a name of
  its own (`isGenerated_iff_match`).  A line ends before its last line feed too;
  so the end of the line is no end of the name.
-/

namespace QuasiGrammar

open Regex Text

/-! ## §1. How the expression is read. -/

namespace Regex

/-- As many digits as a digest has. -/
def digestItem : Item :=
  .repetition .greedy digestLength (some digestLength)
    [.set false [.range '0'.toNat '9'.toNat, .range 'a'.toNat 'f'.toNat]]

/-- The items after the prefix. -/
def itemsAfterPrefix : List Item :=
  literals ['-'] ++ (digestItem :: (literals Store.fileSuffix.toList ++ [.anchor .lineEnd]))

/-- The expression that names with a prefix match. -/
def nameExpression (start : List Char) : Expression :=
  ⟨.anchor .lineStart :: (literals start ++ itemsAfterPrefix), [], [], 1⟩

/-- The tokens of the dash and the digits after it. -/
def digestTokens : List Token := "-[0-9a-f]\x7b64\x7d".toList.map .plain

/-- The tokens of the end of the name. -/
def suffixTokens : List Token :=
  Store.fileSuffix.toList.map (escapedToken specialChars.contains) ++ [.plain '$']

theorem tokens_afterPrefix : tokens Store.afterPrefix = (digestTokens ++ suffixTokens, false) := by
  decide

/-- The dash and the digits are read, if an escape follows. -/
theorem readItems_digestTokens (acc : List Item) (place n : Nat) (c : Char) (more : List Token) :
    ∃ place', readItems (n + 3) false true acc
        (Scan.bare (digestTokens ++ .escaped c :: more) place) =
      readItems n false true (digestItem :: .literal '-'.toNat :: acc)
        (Scan.bare (.escaped c :: more) place') :=
  ⟨_, rfl⟩

/-- The end of the line is read, at the end of the expression. -/
theorem readItems_lineEnd (acc : List Item) (place n : Nat) :
    ∃ place', readItems (n + 2) false true acc (Scan.bare [.plain '$'] place) =
      .ok (acc.reverse ++ [.anchor .lineEnd], Scan.bare [] place') := by
  obtain ⟨place', h⟩ : ∃ place',
      readItems (n + 2) false true acc (Scan.bare [.plain '$'] place) =
        .ok ((.anchor .lineEnd :: acc).reverse, Scan.bare [] place') := ⟨_, rfl⟩
  exact ⟨place', by rw [h, List.reverse_cons]⟩

/-- What stands after the prefix is read. -/
theorem readItems_afterPrefix (acc : List Item) (place n : Nat) :
    ∃ place', readItems (n + 10) false true acc
        (Scan.bare (digestTokens ++ suffixTokens) place) =
      .ok (acc.reverse ++ itemsAfterPrefix, Scan.bare [] place') := by
  obtain ⟨first, hdigest⟩ := readItems_digestTokens acc place (n + 7) '.'
    ("json$".toList.map .plain)
  obtain ⟨second, hsuffix⟩ := readItems_escaped (t := Scan.bare suffixTokens first)
    escapes_specialChars Store.fileSuffix.toList rfl rfl (n + 2) true
    (digestItem :: .literal '-'.toNat :: acc)
  obtain ⟨third, hend⟩ := readItems_lineEnd
    ((literals Store.fileSuffix.toList).reverse ++ digestItem :: .literal '-'.toNat :: acc)
    second n
  refine ⟨third, hdigest.trans (hsuffix.trans (hend.trans ?_))⟩
  rw [List.reverse_append, List.reverse_reverse, List.reverse_cons, List.reverse_cons]
  simp [itemsAfterPrefix, literals]

theorem tokens_namePattern (s : Store) :
    tokens s.namePattern =
      (.plain '^' :: (s.filePrefix.toList.map (escapedToken specialChars.contains) ++
        (digestTokens ++ suffixTokens)), false) := by
  have hescaped := tokens_escapeWith escapes_specialChars.backslash s.filePrefix.toList
  rw [Store.namePattern, tokens_plain (by decide), escapeText,
    tokens_append (by rw [hescaped]), hescaped, tokens_afterPrefix]

theorem parse_namePattern (s : Store) :
    parse s.namePattern = .ok (nameExpression s.filePrefix.toList) := by
  have htokens := tokens_namePattern s
  -- The reader has steps enough, since no character takes more than one.
  obtain ⟨n, hn⟩ : ∃ n, 4 * s.namePattern.length + 7 = n + 10 + s.filePrefix.toList.length + 1 := by
    have hle := length_le_escapeWith specialChars.contains s.filePrefix.toList
    have hlength : s.namePattern.length =
        (escapeWith specialChars.contains s.filePrefix.toList).length + 20 + 1 := by
      rw [Store.namePattern, List.length_cons, List.length_append, escapeText]
      rfl
    exact ⟨4 * s.namePattern.length - 4 - s.filePrefix.toList.length, by omega⟩
  -- After the beginning of the line come the prefix and what stands after it.
  obtain ⟨first, hstart⟩ := readItems_escaped escapes_specialChars s.filePrefix.toList
    (t := Scan.bare (s.filePrefix.toList.map (escapedToken specialChars.contains) ++
      (digestTokens ++ suffixTokens)) 1) rfl rfl (n + 10) true [.anchor .lineStart]
  obtain ⟨second, hend⟩ := readItems_afterPrefix
    ((literals s.filePrefix.toList).reverse ++ [.anchor .lineStart]) first n
  refine parse_of_readItems second (by rw [htokens]) ?_
  rw [htokens, hn, readItems_of_cons rfl rfl (by decide) (by decide)]
  refine hstart.trans (hend.trans ?_)
  rw [List.reverse_append, List.reverse_reverse]
  rfl

/-- **The expression of the names is read for every prefix.** -/
theorem read_namePattern (s : Store) :
    read s.namePattern = .ok (nameExpression s.filePrefix.toList) := by
  refine read_ok_iff.2 ⟨parse_namePattern s, ?_, ?_⟩
  · show flawIn? _ _ (literals s.filePrefix.toList ++ itemsAfterPrefix) = none
    rw [flawIn?_literals]
    rfl
  · show anyLooksTooFar _ (literals s.filePrefix.toList ++ itemsAfterPrefix) = false
    rw [anyLooksTooFar_literals]
    rfl

/-! ## §2. What it matches. -/

variable {a : Alphabet} {p q : Point}

/-- The set of digits holds the digits. -/
theorem digits_has (a : Alphabet) (c : Char) :
    (([.range '0'.toNat '9'.toNat, .range 'a'.toNat 'f'.toNat] : List Member).any
      (·.has a [] c) != false) = isDigestDigit c := by
  simp [Member.has, Alphabet.codes, isDigestDigit, Char.isDigit, Char.le_def,
    UInt32.le_iff_toNat_le]

/-- The digits are passed where they stand. -/
theorem mem_paths_digestItem :
    q ∈ digestItem.paths a [] p ↔
      ∃ digits, digits.length = digestLength ∧ digits.all isDigestDigit = true ∧
        p.Passes digits q := by
  have hstep : allPaths a [.set false [.range '0'.toNat '9'.toNat, .range 'a'.toNat 'f'.toNat]] [] =
      Point.next isDigestDigit := by
    funext r
    rw [allPaths_singleton, Item.paths]
    exact congrArg (Point.next · r) (funext (digits_has a))
  rw [digestItem, Item.paths, hstep, Greed.turns, mem_turns_next]
  refine exists_congr fun digits => and_congr_left fun _ => ?_
  -- Both bounds are the length of a digest.
  constructor
  · intro h
    exact Nat.le_antisymm (Nat.max_self digestLength ▸ h.2 _ rfl) h.1
  · intro h
    exact ⟨h.ge, fun n _ => h.le.trans (Nat.le_max_left _ _)⟩

/-- The end of the line is at the end of the text, and before its last line feed. -/
theorem mem_paths_lineEnd :
    q ∈ (Item.anchor .lineEnd).paths a [] p ↔ (p.after = [] ∨ p.after = ['\n']) ∧ q = p := by
  rw [Item.paths, List.mem_ite_nil_right, List.mem_singleton]
  simp [Anchor.holds]

/-- What the expression of the names matches at the beginning of a text. -/
theorem match?_nameExpression {start text : List Char} :
    ((nameExpression start).match? a text).isSome = true ↔
      ∃ digits : List Char, digits.length = digestLength ∧ digits.all isDigestDigit = true ∧
        ∃ tail, (tail = Store.fileSuffix.toList ∨ tail = Store.fileSuffix.toList ++ ['\n']) ∧
          text = start ++ (['-'] ++ (digits ++ tail)) := by
  have hpaths : (nameExpression start).paths a text =
      allPaths a (literals start ++ itemsAfterPrefix) [] (Point.start text) := by
    show (if true then [Point.start text] else []).flatMap _ = _
    exact List.flatMap_singleton _ _
  simp only [isSome_match?_iff, hpaths, itemsAfterPrefix, mem_allPaths_literals_append,
    mem_allPaths_cons, mem_paths_digestItem, allPaths_singleton, mem_paths_lineEnd]
  constructor
  · rintro ⟨_, p₁, h₁, p₂, h₂, p₃, ⟨digits, hlength, hall, h₃⟩, p₄, h₄, hend, -⟩
    have htext : text = start ++ p₁.after := h₁.after
    refine ⟨digits, hlength, hall, p₃.after, ?_, by rw [htext, h₂.after, h₃.after]⟩
    rw [h₄.after]
    exact hend.imp (fun h => by rw [h, List.append_nil]) fun h => by rw [h]
  · rintro ⟨digits, hlength, hall, tail, htail, htext⟩
    obtain ⟨rest, hrest, hend⟩ :
        ∃ rest, tail = Store.fileSuffix.toList ++ rest ∧ (rest = [] ∨ rest = ['\n']) := by
      rcases htail with rfl | rfl
      · exact ⟨[], (List.append_nil _).symm, .inl rfl⟩
      · exact ⟨['\n'], rfl, .inr rfl⟩
    exact ⟨_, _, Point.passes_past htext, _, Point.passes_past rfl, _,
      ⟨digits, hlength, hall, Point.passes_past rfl⟩, _, Point.passes_past hrest, hend, rfl⟩

end Regex

/-! ## §3. Names of a store. -/

namespace Store

open Work

/-- What the store takes for a name of its own is what the expression matches. -/
theorem isGenerated_eq_match (a : Alphabet) (s : Store) (name : String) :
    s.isGenerated name = ((nameExpression s.filePrefix.toList).match? a name.toList).isSome := by
  rw [Bool.eq_iff_iff, isGenerated_iff, match?_nameExpression, String.toList_append]
  simp only [List.append_assoc]
  rfl

theorem toList_filenameFor (s : Store) (digest : String) :
    (s.filenameFor digest).toList =
      (s.filePrefix ++ "-").toList ++ (digest.toList ++ fileSuffix.toList) := by
  rw [filenameFor, String.toList_append, String.toList_append, List.append_assoc]

/-- The store takes for its own the names that it gives, and those with a line feed after them. -/
theorem isGenerated_iff_generates {s : Store} {name : String} :
    s.isGenerated name = true ↔
      s.Generates name ∨ ∃ stem, s.Generates stem ∧ name = stem ++ "\n" := by
  rw [isGenerated_iff]
  constructor
  · rintro ⟨digits, hlength, hall, tail, rfl | rfl, hname⟩
    · refine .inl ⟨String.ofList digits, ⟨?_, ?_⟩, ?_⟩
      · rwa [String.toList_ofList]
      · rwa [String.toList_ofList]
      · rw [← String.toList_inj, toList_filenameFor, String.toList_ofList, hname]
    · refine .inr ⟨s.filenameFor (String.ofList digits), ⟨_, ⟨?_, ?_⟩, rfl⟩, ?_⟩
      · rwa [String.toList_ofList]
      · rwa [String.toList_ofList]
      · rw [← String.toList_inj, String.toList_append, toList_filenameFor, String.toList_ofList,
          hname]
        simp only [List.append_assoc]
        rfl
  · rintro (⟨digest, hdigest, rfl⟩ | ⟨_, ⟨digest, hdigest, rfl⟩, rfl⟩)
    · exact ⟨digest.toList, hdigest.1, hdigest.2, _, .inl rfl, toList_filenameFor s digest⟩
    · refine ⟨digest.toList, hdigest.1, hdigest.2, _, .inr rfl, ?_⟩
      rw [String.toList_append, toList_filenameFor]
      simp only [List.append_assoc]
      rfl

/-- No name of the store ends in a line feed. -/
theorem not_generates_lineFeed {s : Store} (stem : String) : ¬ s.Generates (stem ++ "\n") := by
  rintro ⟨digest, -, h⟩
  have hlast := congrArg (·.toList.getLast?) h
  simp only [String.toList_append, filenameFor, List.getLast?_append] at hlast
  exact absurd (show some '\n' = some 'n' from hlast) (by decide)

/-- **The store knows its own names by an expression, and takes no other name for one, unless it is
one of them with a line feed after it; a cleanup deletes what is so taken.** -/
theorem isGenerated_exact_iff (a : Alphabet) (s : Store) :
    (∃ e, Regex.read s.namePattern = .ok e ∧
      ∀ name, s.isGenerated name = (e.match? a name.toList).isSome) ∧
    (∀ name, (s.isGenerated name = true ↔ s.Generates name) ↔
      ¬ ∃ stem, s.Generates stem ∧ name = stem ++ "\n") ∧
    ∀ names talk r, Talks s.removeGenerated (.asked .list (.ok names) :: talk) r →
      callsIn talk <+: (names.filter s.isGenerated).map .delete ∧
        (r.isOk = true → callsIn talk = (names.filter s.isGenerated).map .delete) := by
  refine ⟨⟨_, read_namePattern s, isGenerated_eq_match a s⟩, fun name => ⟨?_, ?_⟩, ?_⟩
  · rintro hiff ⟨stem, hstem, rfl⟩
    have htaken := isGenerated_iff_generates.2 (.inr ⟨stem, hstem, rfl⟩)
    exact not_generates_lineFeed stem (hiff.1 htaken)
  · intro hnone
    rw [isGenerated_iff_generates]
    exact or_iff_left hnone
  · intro names talk r htalk
    rcases talks_removeGenerated htalk with ⟨f, hfailed, -⟩ | ⟨_, deleted, hlisted, hturn⟩
    · cases hfailed
    · cases hlisted
      refine ⟨hturn.callsIn_prefix, fun hok => ?_⟩
      rw [hok] at hturn
      exact hturn.callsIn_eq

/-- A name that the store gives. -/
def zeroName : String := sampleStore.filenameFor (String.ofList (List.replicate digestLength '0'))

/-- A cleanup deletes the file of the store and leaves the other one alone. -/
theorem cleanup_leaves_others :
    Talks sampleStore.removeGenerated
        [.asked .list (.ok ["notes.txt", zeroName]), .asked (.delete zeroName) (.ok ())]
        (.ok [zeroName]) ∧
      callsIn [.asked (.delete zeroName) (.ok ())] =
        (["notes.txt", zeroName].filter sampleStore.isGenerated).map .delete := by
  have hfilter : ["notes.txt", zeroName].filter sampleStore.isGenerated = [zeroName] := by
    decide +kernel
  have htalk : Talks sampleStore.removeGenerated
      [.asked .list (.ok ["notes.txt", zeroName]), .asked (.delete zeroName) (.ok ())]
      (.ok [zeroName]) := by
    refine .call .list (.ok ["notes.txt", zeroName]) ?_
    show Talks (do
      deleteAll (["notes.txt", zeroName].filter sampleStore.isGenerated)
      pure (["notes.txt", zeroName].filter sampleStore.isGenerated)) _ _
    rw [hfilter]
    exact .call (.delete zeroName) (.ok ()) (.done _)
  exact ⟨htalk, ((isGenerated_exact_iff .ascii sampleStore).2.2 _ _ _ htalk).2 rfl⟩

/-- A name with a line feed after it is taken for one that the store gives. -/
theorem taken_with_lineFeed :
    sampleStore.isGenerated (zeroName ++ "\n") = true ∧
      ¬ sampleStore.Generates (zeroName ++ "\n") :=
  ⟨by decide +kernel, not_generates_lineFeed _⟩

end Store

end QuasiGrammar
