import QuasiGrammar.Proofs.Rule.Form
import QuasiGrammar.Schema.Grammar

/-
  QuasiGrammar.Proofs.Schema.Fit
  ──────────────────────────────
  **A value is accepted just if it has the form of a grammar document.**

  `Schema.Fits` says what a schema asks of a value, keyword by keyword and
  without regard to order: each keyword asks something of the values of one type
  and nothing of all others.  A value has no faults just if it fits
  (`faults_eq_nil_iff`), which is an induction over the schema alone, since a
  schema carries those that it refers to.

  The form of a document (§3) is written down without any schema.  Each named
  schema asks for its part of it, and `check_eq_ok_iff_isDocument` is the whole.
-/

namespace QuasiGrammar

open Text

/-! ## §1. What schemas ask for. -/

/-- The texts that the regular expression of a form describes from their beginning to their end. -/
def TextForm.Describes : TextForm → List Char → Prop
  | .dotted, cs => Rule.DottedName cs
  | .digits, cs => cs ≠ [] ∧ ∀ c ∈ cs, c.isDigit = true

/-- The regular expression of a form is found in a text: it describes the text, or the text before a
line feed at its end. -/
def TextForm.FoundIn (f : TextForm) (s : String) : Prop :=
  ∃ cs, f.Describes cs ∧ (s.toList = cs ∨ s.toList = cs ++ ['\n'])

mutual

/-- A value fits a schema. -/
def Schema.Fits : Schema → Json → Prop
  | .keywords ks, v => Keyword.AllHold (Keyword.propertiesOf ks) ks v
  | .ref _ target, v => target.Fits v

/-- All keywords hold of a value; `known` are the properties of the schema. -/
def Keyword.AllHold (known : List String) : List Keyword → Json → Prop
  | [], _ => True
  | k :: rest, v => k.Holds known v ∧ Keyword.AllHold known rest v

/-- A keyword holds of a value. -/
def Keyword.Holds (known : List String) : Keyword → Json → Prop
  | .type t, v => v.type? = some t
  | .required names, v =>
      ∀ fields, v = .object fields → ∀ name ∈ names, ∃ w, Json.field? name fields = some w
  | .closed, v => ∀ name ∈ v.keys, name ∈ known
  | .additional s, v => ∀ f ∈ v.otherFields known, s.Fits f.2
  | .properties ps, v => Keyword.PropertiesFit ps v
  | .propertyNames s, v => ∀ name ∈ v.keys, s.Fits (.text name)
  | .items s, v => ∀ w ∈ v.items, s.Fits w
  | .minLength n, v => ∀ s, v = .text s → n ≤ s.length
  | .minItems n, v => ∀ vs, v = .array vs → n ≤ vs.length
  | .maxItems n, v => ∀ vs, v = .array vs → vs.length ≤ n
  | .pattern f, v => ∀ s, v = .text s → f.FoundIn s

/-- The fields of a value that are properties fit their schemas. -/
def Keyword.PropertiesFit : List (String × Schema) → Json → Prop
  | [], _ => True
  | (name, s) :: rest, v => (∀ w, v.get? name = some w → s.Fits w) ∧ Keyword.PropertiesFit rest v

end

section

variable {known : List String} {v : Json}

theorem Schema.fits_keywords {ks : List Keyword} :
    (Schema.keywords ks).Fits v ↔ Keyword.AllHold (Keyword.propertiesOf ks) ks v := Iff.rfl

theorem Schema.fits_ref {name : String} {target : Schema} :
    (Schema.ref name target).Fits v ↔ target.Fits v := Iff.rfl

theorem Keyword.allHold_nil : Keyword.AllHold known [] v ↔ True := Iff.rfl

theorem Keyword.allHold_cons {k : Keyword} {rest : List Keyword} :
    Keyword.AllHold known (k :: rest) v ↔ k.Holds known v ∧ Keyword.AllHold known rest v := Iff.rfl

theorem Keyword.holds_type {t : JsonType} :
    (Keyword.type t).Holds known v ↔ v.type? = some t := Iff.rfl

theorem Keyword.holds_closed :
    Keyword.closed.Holds known v ↔ ∀ name ∈ v.keys, name ∈ known := Iff.rfl

theorem Keyword.holds_properties {ps : List (String × Schema)} :
    (Keyword.properties ps).Holds known v ↔ Keyword.PropertiesFit ps v := Iff.rfl

theorem Keyword.propertiesFit_nil : Keyword.PropertiesFit [] v ↔ True := Iff.rfl

theorem Keyword.propertiesFit_cons {name : String} {s : Schema} {rest : List (String × Schema)} :
    Keyword.PropertiesFit ((name, s) :: rest) v ↔
      (∀ w, v.get? name = some w → s.Fits w) ∧ Keyword.PropertiesFit rest v := Iff.rfl

end

/-! ## §2. Faults and fitting. -/

namespace TextForm

theorem matchesAll_iff {f : TextForm} {cs : List Char} :
    f.matchesAll cs = true ↔ f.Describes cs := by
  cases f with
  | dotted => exact Rule.isDotted_iff
  | digits => simp [matchesAll, Describes]

theorem accepts_iff {f : TextForm} {s : String} : f.accepts s = true ↔ f.FoundIn s := by
  unfold accepts FoundIn dropFinalNewline
  rw [Bool.or_eq_true, matchesAll_iff, matchesAll_iff]
  constructor
  · rintro (h | h)
    · exact ⟨_, h, .inl rfl⟩
    · by_cases hlast : s.toList.getLast? = some '\n'
      · rw [if_pos hlast] at h
        obtain ⟨before, hbefore⟩ := List.getLast?_eq_some_iff.1 hlast
        refine ⟨_, h, .inr ?_⟩
        rw [hbefore, List.dropLast_concat]
      · rw [if_neg hlast] at h
        exact ⟨_, h, .inl rfl⟩
  · rintro ⟨cs, h, hs | hs⟩
    · exact .inl (hs ▸ h)
    · right
      rw [hs, List.getLast?_concat, if_pos rfl, List.dropLast_concat]
      exact h

end TextForm

theorem faultIf_eq_nil_iff {condition : Bool} {violation : Violation} :
    faultIf condition violation = [] ↔ condition = false := by
  cases condition <;> simp [faultIf]

/-- The names of a value's fields, those that are known left out. -/
theorem Json.map_fst_otherFields (known : List String) (v : Json) :
    (v.otherFields known).map Prod.fst = v.keys.filter fun name => !known.contains name := by
  cases v with
  | object fields => exact (List.filter_map (p := fun name => !known.contains name)).symm
  | _ => rfl

section

variable {known : List String} {v : Json}

/-! What a keyword that looks at the value alone finds at fault is that it does not hold. -/

theorem Keyword.ownFaults_type {t : JsonType} :
    (Keyword.type t).ownFaults known v = [] ↔ (Keyword.type t).Holds known v := by
  show faultIf (v.type? != some t) _ = [] ↔ v.type? = some t
  rw [faultIf_eq_nil_iff, bne_eq_false_iff_eq]

theorem Keyword.ownFaults_required {names : List String} :
    (Keyword.required names).ownFaults known v = [] ↔ (Keyword.required names).Holds known v := by
  cases v with
  | object fields =>
    show (names.filter fun name => (Json.field? name fields).isNone).map _ = [] ↔
      ∀ fields', Json.object fields = .object fields' →
        ∀ name ∈ names, ∃ w, Json.field? name fields' = some w
    simp [List.filter_eq_nil_iff, ← Option.ne_none_iff_exists']
  | _ => exact iff_of_true rfl (by rintro _ ⟨⟩)

theorem Keyword.ownFaults_closed :
    Keyword.closed.ownFaults known v = [] ↔ Keyword.closed.Holds known v := by
  show faultIf (!((v.otherFields known).map Prod.fst).isEmpty) _ = [] ↔
    ∀ name ∈ v.keys, name ∈ known
  rw [faultIf_eq_nil_iff, Json.map_fst_otherFields]
  simp [List.filter_eq_nil_iff]

theorem Keyword.ownFaults_minLength {n : Nat} :
    (Keyword.minLength n).ownFaults known v = [] ↔ (Keyword.minLength n).Holds known v := by
  cases v with
  | text s =>
    show faultIf (s.length < n) _ = [] ↔ ∀ s', Json.text s = .text s' → n ≤ s'.length
    simp [faultIf_eq_nil_iff]
  | _ => exact iff_of_true rfl (by rintro _ ⟨⟩)

theorem Keyword.ownFaults_minItems {n : Nat} :
    (Keyword.minItems n).ownFaults known v = [] ↔ (Keyword.minItems n).Holds known v := by
  cases v with
  | array vs =>
    show faultIf (vs.length < n) _ = [] ↔ ∀ vs', Json.array vs = .array vs' → n ≤ vs'.length
    simp [faultIf_eq_nil_iff]
  | _ => exact iff_of_true rfl (by rintro _ ⟨⟩)

theorem Keyword.ownFaults_maxItems {n : Nat} :
    (Keyword.maxItems n).ownFaults known v = [] ↔ (Keyword.maxItems n).Holds known v := by
  show faultIf (n < v.items.length) _ = [] ↔ ∀ vs, v = .array vs → vs.length ≤ n
  rw [faultIf_eq_nil_iff, decide_eq_false_iff_not, Nat.not_lt]
  cases v <;> simp [Json.items]

theorem Keyword.ownFaults_pattern {f : TextForm} :
    (Keyword.pattern f).ownFaults known v = [] ↔ (Keyword.pattern f).Holds known v := by
  cases v with
  | text s =>
    show faultIf (!f.accepts s) _ = [] ↔ ∀ s', Json.text s = .text s' → f.FoundIn s'
    simp [faultIf_eq_nil_iff, TextForm.accepts_iff]
  | _ => exact iff_of_true rfl (by rintro _ ⟨⟩)

end

mutual

/-- **A value has no faults under a schema just if it fits.** -/
theorem Schema.faults_eq_nil_iff : ∀ (s : Schema) (v : Json), s.faults v = [] ↔ s.Fits v
  | .keywords ks, v => Keyword.faultsOf_eq_nil_iff (Keyword.propertiesOf ks) ks v
  | .ref _ target, v => Schema.faults_eq_nil_iff target v

theorem Keyword.faultsOf_eq_nil_iff (known : List String) :
    ∀ (ks : List Keyword) (v : Json), Keyword.faultsOf known ks v = [] ↔ Keyword.AllHold known ks v
  | [], v => by simp [Keyword.faultsOf, Keyword.AllHold]
  | k :: rest, v => by
    rw [Keyword.faultsOf, Keyword.AllHold, List.append_eq_nil_iff,
      Keyword.faults_eq_nil_iff known k v, Keyword.faultsOf_eq_nil_iff known rest v]

theorem Keyword.faults_eq_nil_iff (known : List String) :
    ∀ (k : Keyword) (v : Json), k.faults known v = [] ↔ k.Holds known v
  -- The keywords that look into the value.
  | .additional s, v => by
    simp only [Keyword.faults, Keyword.Holds, List.flatMap_eq_nil_iff, List.map_eq_nil_iff,
      Schema.faults_eq_nil_iff s]
  | .properties ps, v => Keyword.propertyFaults_eq_nil_iff ps v
  | .propertyNames s, v => by
    simp only [Keyword.faults, Keyword.Holds, List.flatMap_eq_nil_iff, Schema.faults_eq_nil_iff s]
  | .items s, v => by
    simp only [Keyword.faults, Keyword.Holds, List.flatMap_eq_nil_iff, List.map_eq_nil_iff,
      Schema.faults_eq_nil_iff s]
    -- An item counts wherever it stands.
    rw [← List.forall_mem_map (f := Prod.fst) (P := s.Fits), List.zipIdx_map_fst]
  -- The keywords that look at the value alone.
  | .type _, _ => Keyword.ownFaults_type
  | .required _, _ => Keyword.ownFaults_required
  | .closed, _ => Keyword.ownFaults_closed
  | .minLength _, _ => Keyword.ownFaults_minLength
  | .minItems _, _ => Keyword.ownFaults_minItems
  | .maxItems _, _ => Keyword.ownFaults_maxItems
  | .pattern _, _ => Keyword.ownFaults_pattern

theorem Keyword.propertyFaults_eq_nil_iff :
    ∀ (ps : List (String × Schema)) (v : Json),
      Keyword.propertyFaults ps v = [] ↔ Keyword.PropertiesFit ps v
  | [], v => by simp [Keyword.propertyFaults, Keyword.PropertiesFit]
  | (name, s) :: rest, v => by
    rw [Keyword.propertyFaults, Keyword.PropertiesFit, List.append_eq_nil_iff,
      Keyword.propertyFaults_eq_nil_iff rest v]
    cases v.get? name with
    | none => simp
    | some w => simp [Schema.faults_eq_nil_iff s w]

end

/-! ## §3. The form of a document. -/

namespace Json

/-- A value is an object with a field of some name that is as asked. -/
def HasField (v : Json) (name : String) (P : Json → Prop) : Prop := ∃ w, v.get? name = some w ∧ P w

/-- A text. -/
def IsText (v : Json) : Prop := ∃ s, v = .text s

/-- A text that is not empty. -/
def IsName (v : Json) : Prop := ∃ s, v = .text s ∧ s ≠ ""

/-- A text in which the expression for dotted names is found. -/
def IsScope (v : Json) : Prop := ∃ s, v = .text s ∧ TextForm.dotted.FoundIn s

/-- Captures: numbers of groups, and for each an object with a name, which may hold more. -/
def IsCaptures (v : Json) : Prop :=
  ∃ fields, v = .object fields ∧
    ∀ f ∈ fields, TextForm.digits.FoundIn f.1 ∧ f.2.HasField "name" IsName

/-- An inclusion: the name of what is included, and nothing else. -/
def IsInclusion (v : Json) : Prop :=
  v.HasField "include" IsName ∧ ∀ name ∈ v.keys, name = "include"

/-- Inclusions, one at least. -/
def AreInclusions (v : Json) : Prop :=
  ∃ vs, v = .array vs ∧ vs ≠ [] ∧ ∀ w ∈ vs, w.IsInclusion

/-- A pattern: the six fields of a pattern, and no others. -/
structure IsPattern (v : Json) : Prop where
  contentName : v.HasField "contentName" IsName
  begins : v.HasField "begin" IsName
  beginCaptures : v.HasField "beginCaptures" IsCaptures
  ends : v.HasField "end" IsName
  endCaptures : v.HasField "endCaptures" IsCaptures
  patterns : v.HasField "patterns" AreInclusions
  keys : ∀ name ∈ v.keys,
    name ∈ ["contentName", "begin", "beginCaptures", "end", "endCaptures", "patterns"]

/-- Patterns, in any number. -/
def ArePatterns (v : Json) : Prop := ∃ vs, v = .array vs ∧ ∀ w ∈ vs, w.IsPattern

/-- A grammar document: the five fields of a document, of which the comment may be missing, and no
others. -/
structure IsDocument (v : Json) : Prop where
  name : v.HasField "name" IsName
  comment : ∀ w, v.get? "comment" = some w → w.IsText
  scopeName : v.HasField "scopeName" IsScope
  fileTypes : v.HasField "fileTypes" (· = .array [])
  patterns : v.HasField "patterns" ArePatterns
  keys : ∀ name ∈ v.keys, name ∈ ["name", "comment", "scopeName", "fileTypes", "patterns"]

/-- A field that is there, and is as asked if it is there. -/
theorem hasField_iff {v : Json} {name : String} {P : Json → Prop} :
    v.HasField name P ↔ (∃ w, v.get? name = some w) ∧ ∀ w, v.get? name = some w → P w := by
  unfold HasField
  cases v.get? name <;> simp

theorem HasField.there {v : Json} {name : String} {P : Json → Prop} (h : v.HasField name P) :
    ∃ w, v.get? name = some w :=
  (hasField_iff.1 h).1

theorem HasField.fits {v : Json} {name : String} {P : Json → Prop} (h : v.HasField name P) :
    ∀ w, v.get? name = some w → P w :=
  (hasField_iff.1 h).2

end Json

/-! ## §4. The schema of documents. -/

namespace Keyword

open Json

variable {known : List String} {v : Json}

theorem type_object_iff : (Keyword.type .object).Holds known v ↔ ∃ fields, v = .object fields := by
  cases v <;> simp [holds_type, Json.type?]

theorem type_array_iff : (Keyword.type .array).Holds known v ↔ ∃ vs, v = .array vs := by
  cases v <;> simp [holds_type, Json.type?]

theorem type_string_iff : (Keyword.type .string).Holds known v ↔ v.IsText := by
  cases v <;> simp [holds_type, Json.type?, IsText]

/-- An object with some fields that are required; a value with a field is an object. -/
theorem required_iff {names : List String} (hsome : names ≠ []) :
    (Keyword.type .object).Holds known v ∧ (Keyword.required names).Holds known v ↔
      ∀ name ∈ names, ∃ w, v.get? name = some w := by
  rw [type_object_iff]
  constructor
  · rintro ⟨⟨fields, rfl⟩, hthere⟩
    exact hthere fields rfl
  · intro hthere
    obtain ⟨name, hname⟩ := List.exists_mem_of_ne_nil names hsome
    obtain ⟨w, hw⟩ := hthere name hname
    cases v with
    | object fields => exact ⟨⟨fields, rfl⟩, by rintro _ ⟨⟩; exact hthere⟩
    | _ => cases hw

end Keyword

namespace Schema

open Json Keyword

theorem fits_nonEmptyText {v : Json} : nonEmptyText.Fits v ↔ v.IsName := by
  simp only [nonEmptyText, fits_keywords, allHold_cons, allHold_nil, type_string_iff, and_true]
  constructor
  · rintro ⟨⟨s, rfl⟩, hlong⟩
    refine ⟨s, rfl, ?_⟩
    rintro rfl
    exact absurd (hlong "" rfl) (by decide)
  · rintro ⟨s, rfl, hs⟩
    refine ⟨⟨s, rfl⟩, ?_⟩
    rintro _ ⟨⟩
    exact Nat.one_le_iff_ne_zero.2 (mt String.length_eq_zero_iff.1 hs)

theorem fits_text {v : Json} : (keywords [.type .string]).Fits v ↔ v.IsText := by
  simp only [fits_keywords, allHold_cons, allHold_nil, type_string_iff, and_true]

theorem fits_scope {v : Json} :
    (keywords [.type .string, .pattern .dotted]).Fits v ↔ v.IsScope := by
  simp only [fits_keywords, allHold_cons, allHold_nil, type_string_iff, and_true]
  constructor
  · rintro ⟨⟨s, rfl⟩, hfound⟩
    exact ⟨s, rfl, hfound s rfl⟩
  · rintro ⟨s, rfl, hs⟩
    refine ⟨⟨s, rfl⟩, ?_⟩
    rintro _ ⟨⟩
    exact hs

theorem fits_noTypes {v : Json} :
    (keywords [.type .array, .maxItems 0]).Fits v ↔ v = .array [] := by
  simp only [fits_keywords, allHold_cons, allHold_nil, type_array_iff, and_true]
  constructor
  · rintro ⟨⟨vs, rfl⟩, hshort⟩
    rw [List.eq_nil_of_length_eq_zero (Nat.le_zero.1 (hshort vs rfl))]
  · rintro rfl
    refine ⟨⟨[], rfl⟩, ?_⟩
    rintro _ ⟨⟩
    exact Nat.le_refl 0

/-- The fields of a value are all among the other ones if no property is known. -/
theorem otherFields_nil (fields : List (String × Json)) :
    (Json.object fields).otherFields [] = fields := by
  simp [otherFields]

theorem fits_captures {v : Json} : captures.Fits v ↔ v.IsCaptures := by
  have hcapture : ∀ w : Json, (keywords [.type .object, .required ["name"],
      .properties [("name", nonEmptyText)]]).Fits w ↔ w.HasField "name" IsName := by
    intro w
    simp only [fits_keywords, allHold_cons, allHold_nil, ← and_assoc, and_true]
    rw [required_iff (by simp), hasField_iff]
    simp [holds_properties, propertiesFit_cons, propertiesFit_nil, fits_nonEmptyText]
  simp only [captures, fits_keywords, allHold_cons, allHold_nil, type_object_iff, and_true]
  constructor
  · rintro ⟨⟨fields, rfl⟩, hnames, hothers⟩
    refine ⟨fields, rfl, fun f hf => ⟨?_, (hcapture f.2).1 (hothers f ?_)⟩⟩
    · exact (hnames f.1 (List.mem_map_of_mem hf)).1 f.1 rfl
    · -- Captures have no properties, so all of their fields are other ones.
      exact (otherFields_nil fields).symm ▸ hf
  · rintro ⟨fields, rfl, hfields⟩
    refine ⟨⟨fields, rfl⟩, fun name hname => ⟨?_, trivial⟩, fun f hf => ?_⟩
    · obtain ⟨f, hf, rfl⟩ := List.mem_map.1 hname
      rintro _ ⟨⟩
      exact (hfields f hf).1
    · have hf : f ∈ (Json.object fields).otherFields [] := hf
      rw [otherFields_nil] at hf
      exact (hcapture f.2).2 (hfields f hf).2

theorem fits_inclusion {v : Json} : inclusion.Fits v ↔ v.IsInclusion := by
  simp only [inclusion, fits_keywords, allHold_cons, allHold_nil, ← and_assoc, and_true]
  rw [required_iff (by simp), IsInclusion, hasField_iff]
  simp [holds_properties, holds_closed, propertiesFit_cons, propertiesFit_nil, fits_nonEmptyText,
    propertiesOf, and_right_comm]

theorem fits_inclusions {v : Json} :
    (keywords [.type .array, .minItems 1, .items (.ref "include" inclusion)]).Fits v ↔
      v.AreInclusions := by
  simp only [fits_keywords, allHold_cons, allHold_nil, type_array_iff, and_true]
  constructor
  · rintro ⟨⟨vs, rfl⟩, hlong, hitems⟩
    refine ⟨vs, rfl, ?_, fun w hw => fits_inclusion.1 (hitems w hw)⟩
    exact List.ne_nil_of_length_pos (hlong vs rfl)
  · rintro ⟨vs, rfl, hsome, hitems⟩
    refine ⟨⟨vs, rfl⟩, ?_, fun w hw => fits_inclusion.2 (hitems w hw)⟩
    rintro _ ⟨⟩
    exact List.length_pos_iff.2 hsome

theorem fits_quasiPattern {v : Json} : quasiPattern.Fits v ↔ v.IsPattern := by
  simp only [quasiPattern, fits_keywords, allHold_cons, allHold_nil, ← and_assoc, and_true]
  rw [required_iff (by simp)]
  simp only [holds_properties, holds_closed, propertiesFit_cons, propertiesFit_nil, fits_ref,
    fits_nonEmptyText, fits_captures, and_true]
  constructor
  · rintro ⟨⟨hthere, hkeys⟩, hname, hbegin, hopening, hend, hclosing, hpatterns⟩
    exact
      { contentName := hasField_iff.2 ⟨hthere _ (by simp), hname⟩
        begins := hasField_iff.2 ⟨hthere _ (by simp), hbegin⟩
        beginCaptures := hasField_iff.2 ⟨hthere _ (by simp), hopening⟩
        ends := hasField_iff.2 ⟨hthere _ (by simp), hend⟩
        endCaptures := hasField_iff.2 ⟨hthere _ (by simp), hclosing⟩
        patterns := hasField_iff.2
          ⟨hthere _ (by simp), fun w hw => fits_inclusions.1 (hpatterns w hw)⟩
        keys := hkeys }
  · intro h
    refine ⟨⟨?_, h.keys⟩, h.contentName.fits, h.begins.fits, h.beginCaptures.fits, h.ends.fits,
      h.endCaptures.fits, fun w hw => fits_inclusions.2 (h.patterns.fits w hw)⟩
    simp [h.contentName.there, h.begins.there, h.beginCaptures.there, h.ends.there,
      h.endCaptures.there, h.patterns.there]

theorem fits_quasiPatterns {v : Json} :
    (keywords [.type .array, .items (.ref "quasiPattern" quasiPattern)]).Fits v ↔
      v.ArePatterns := by
  simp only [fits_keywords, allHold_cons, allHold_nil, type_array_iff, and_true]
  constructor
  · rintro ⟨⟨vs, rfl⟩, hitems⟩
    exact ⟨vs, rfl, fun w hw => fits_quasiPattern.1 (hitems w hw)⟩
  · rintro ⟨vs, rfl, hitems⟩
    exact ⟨⟨vs, rfl⟩, fun w hw => fits_quasiPattern.2 (hitems w hw)⟩

theorem fits_grammar {v : Json} : grammar.Fits v ↔ v.IsDocument := by
  simp only [grammar, documentKeywords, fits_keywords, allHold_cons, allHold_nil, ← and_assoc,
    and_true]
  rw [required_iff (by simp)]
  simp only [holds_properties, holds_closed, propertiesFit_cons, propertiesFit_nil,
    fits_nonEmptyText, fits_text, fits_scope, fits_noTypes, fits_quasiPatterns, and_true]
  constructor
  · rintro ⟨⟨hthere, hkeys⟩, hname, hcomment, hscope, htypes, hpatterns⟩
    exact
      { name := hasField_iff.2 ⟨hthere _ (by simp), hname⟩
        comment := hcomment
        scopeName := hasField_iff.2 ⟨hthere _ (by simp), hscope⟩
        fileTypes := hasField_iff.2 ⟨hthere _ (by simp), htypes⟩
        patterns := hasField_iff.2 ⟨hthere _ (by simp), hpatterns⟩
        keys := hkeys }
  · intro h
    refine ⟨⟨?_, h.keys⟩, h.name.fits, h.comment, h.scopeName.fits, h.fileTypes.fits,
      h.patterns.fits⟩
    simp [h.name.there, h.scopeName.there, h.fileTypes.there, h.patterns.there]

/-- **A value is accepted just if it is a grammar document.**  Whatever the value is, and however
deep what it holds, nothing is raised for it just if it has the fields of a document, all of which
are as they have to be. -/
theorem check_eq_ok_iff_isDocument (v : Json) : grammar.check v = .ok () ↔ v.IsDocument := by
  rw [check_eq_ok_iff, faults_eq_nil_iff, fits_grammar]

end Schema

end QuasiGrammar
