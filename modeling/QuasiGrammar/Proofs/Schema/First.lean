import QuasiGrammar.Proofs.Schema.Fit

/-
  QuasiGrammar.Proofs.Schema.First
  ────────────────────────────────
  **A value is refused for the first thing that is wrong with it.**

  A schema has its keywords look at many places of a value.  `Schema.Visits`
  says which places these are, without regard to what is found there, and gives
  each of them a number, digit by digit: the place of the keyword in its schema,
  then the place of the part among those that the keyword looks into, then the
  number in that part.  The places are visited in the order of their numbers, as
  in a dictionary.

      Schema.FirstAt            the first place with a keyword that does not hold
      Schema.Visits.standsIn    each place is in the value
      Schema.exists_firstAt     where there is a fault, there is such a place, and
                                the fault found first is the one found there
      Schema.check_eq_error_iff_firstAt
                                all this together, for grammar documents
-/

namespace QuasiGrammar

open Text

/-! ## §1. Ways into a value. -/

/-- A way leads from a value to one that it holds. -/
inductive Json.Leads : Json → List Step → Json → Prop
  | here (v : Json) : Leads v [] v
  | key {fields : List (String × Json)} {name : String} {w u : Json} {path : List Step}
      (hfield : (name, w) ∈ fields) (h : Leads w path u) :
      Leads (.object fields) (.key name :: path) u
  | index {vs : List Json} {i : Nat} {w u : Json} {path : List Step} (hitem : vs[i]? = some w)
      (h : Leads w path u) : Leads (.array vs) (.index i :: path) u

/-- Nothing can be looked into in a text. -/
theorem Json.Leads.of_text {t : String} {path : List Step} {u : Json} (h : (Json.text t).Leads path u) :
    path = [] ∧ u = .text t := by
  cases h with
  | here => exact ⟨rfl, rfl⟩

theorem Json.mem_of_field? {name : String} {w : Json} {fields : List (String × Json)}
    (h : field? name fields = some w) : (name, w) ∈ fields := by
  induction fields with
  | nil => simp [field?] at h
  | cons f rest ih =>
    obtain ⟨k, u⟩ := f
    by_cases hk : k = name
    · simp only [field?, hk, if_true, Option.some.injEq] at h
      rw [hk, h]
      exact List.mem_cons_self
    · simp only [field?, hk, if_false] at h
      exact List.mem_cons_of_mem _ (ih h)

/-! ## §2. The parts of a value. -/

/-- A part of a value that a keyword looks into: the step that leads to it, which the name of a field
does not need, the schema for it, and the part. -/
structure Part where
  step : Option Step
  schema : Schema
  value : Json

/-- Whether a keyword looks at a value alone, and not into it. -/
def Keyword.looksAt : Keyword → Bool
  | .additional _ | .properties _ | .propertyNames _ | .items _ => false
  | _ => true

/-- The parts that a keyword looks into, one after the other: fields that are no properties in the
order of the value, properties in the order of the schema, names in the order of the value, items by
index. -/
def Keyword.parts (known : List String) : Keyword → Json → List Part
  | .additional s, v => (v.otherFields known).map fun f => ⟨some (.key f.1), s, f.2⟩
  | .properties ps, v =>
      ps.filterMap fun p => (v.get? p.1).map fun w => ⟨some (.key p.1), p.2, w⟩
  | .propertyNames s, v => v.keys.map fun name => ⟨none, s, .text name⟩
  | .items s, v => v.items.zipIdx.map fun item => ⟨some (.index item.2), s, item.1⟩
  | _, _ => []

/-- The faults that are found in a part. -/
def Part.faults (p : Part) : List SchemaFault :=
  (p.schema.faults p.value).map fun f => { f with path := p.step.toList ++ f.path }

section

variable {known : List String} {v : Json} {k : Keyword} {p : Part}

/-- A part is smaller than the keyword that looks into it, as far as schemas go. -/
theorem Keyword.sizeOf_of_mem_parts (h : p ∈ k.parts known v) : sizeOf p.schema < sizeOf k := by
  cases k with
  | additional s =>
    obtain ⟨f, -, rfl⟩ := List.mem_map.1 h
    simp
  | properties ps =>
    obtain ⟨q, hq, hsome⟩ := List.mem_filterMap.1 h
    obtain ⟨w, -, rfl⟩ := Option.map_eq_some_iff.1 hsome
    have hlt := List.sizeOf_lt_of_mem hq
    obtain ⟨name, s⟩ := q
    simp only [Prod.mk.sizeOf_spec, Keyword.properties.sizeOf_spec] at hlt ⊢
    omega
  | propertyNames s =>
    obtain ⟨name, -, rfl⟩ := List.mem_map.1 h
    simp
  | items s =>
    obtain ⟨item, -, rfl⟩ := List.mem_map.1 h
    simp
  | _ => cases h

/-- The parts of a value are in it, one step away; only the names of its fields are reached without
a step. -/
theorem Keyword.leads_of_mem_parts (h : p ∈ k.parts known v) :
    (∀ step, p.step = some step →
        ∀ {path : List Step} {u : Json}, p.value.Leads path u → v.Leads (step :: path) u) ∧
      (p.step = none → ∃ fields name, v = .object fields ∧ name ∈ fields.map Prod.fst ∧
        p.value = .text name) := by
  cases k with
  | additional s =>
    obtain ⟨f, hf, rfl⟩ := List.mem_map.1 h
    refine ⟨?_, nofun⟩
    rintro _ ⟨⟩ path u hleads
    cases v with
    | object fields => exact .key (List.mem_filter.1 hf).1 hleads
    | _ => cases hf
  | properties ps =>
    obtain ⟨q, -, hsome⟩ := List.mem_filterMap.1 h
    obtain ⟨w, hw, rfl⟩ := Option.map_eq_some_iff.1 hsome
    refine ⟨?_, nofun⟩
    rintro _ ⟨⟩ path u hleads
    cases v with
    | object fields => exact .key (Json.mem_of_field? hw) hleads
    | _ => cases hw
  | propertyNames s =>
    obtain ⟨name, hname, rfl⟩ := List.mem_map.1 h
    refine ⟨nofun, fun _ => ?_⟩
    cases v with
    | object fields => exact ⟨fields, name, rfl, hname, rfl⟩
    | _ => cases hname
  | items s =>
    obtain ⟨item, hitem, rfl⟩ := List.mem_map.1 h
    refine ⟨?_, nofun⟩
    rintro _ ⟨⟩ path u hleads
    cases v with
    | array vs => exact .index (List.mem_zipIdx_iff_getElem?.1 hitem) hleads
    | _ => cases hitem
  | _ => cases h

theorem Keyword.propertyFaults_eq (ps : List (String × Schema)) :
    Keyword.propertyFaults ps v =
      ((Keyword.properties ps).parts known v).flatMap Part.faults := by
  induction ps with
  | nil => rfl
  | cons q rest ih =>
    obtain ⟨name, s⟩ := q
    rw [Keyword.propertyFaults, ih]
    simp only [Keyword.parts, List.filterMap_cons]
    cases v.get? name <;> rfl

/-- What a keyword finds is found in the parts that it looks into, or else by looking at the
value. -/
theorem Keyword.faults_eq :
    k.faults known v =
      if k.looksAt then k.ownFaults known v else (k.parts known v).flatMap Part.faults := by
  cases k with
  | additional s =>
    show (v.otherFields known).flatMap _ = ((v.otherFields known).map _).flatMap Part.faults
    rw [List.flatMap_map]
    rfl
  | properties ps => exact Keyword.propertyFaults_eq ps
  | propertyNames s =>
    show v.keys.flatMap _ = (v.keys.map _).flatMap Part.faults
    rw [List.flatMap_map]
    exact congrArg (List.flatMap · v.keys) (funext fun name => (List.map_id _).symm)
  | items s =>
    show v.items.zipIdx.flatMap _ = (v.items.zipIdx.map _).flatMap Part.faults
    rw [List.flatMap_map]
    rfl
  | _ => rfl

theorem Keyword.faultsOf_eq (ks : List Keyword) :
    Keyword.faultsOf known ks v = ks.flatMap fun k => k.faults known v := by
  induction ks with
  | nil => rfl
  | cons k rest ih => rw [Keyword.faultsOf, ih, List.flatMap_cons]

/-- What a keyword finds by looking at a value is wrong with the value itself. -/
theorem Keyword.path_of_mem_ownFaults {f : SchemaFault} (h : f ∈ k.ownFaults known v) :
    f.path = [] := by
  have hif : ∀ {condition : Bool} {violation : Violation},
      f ∈ faultIf condition violation → f.path = [] := by
    intro condition violation hf
    unfold faultIf at hf
    split at hf
    · rw [List.mem_singleton.1 hf]
    · cases hf
  cases k with
  | type t => exact hif h
  | required names =>
    cases v with
    | object fields =>
      obtain ⟨name, -, rfl⟩ := List.mem_map.1 h
      rfl
    | _ => cases h
  | closed => exact hif h
  | minLength n =>
    cases v with
    | text s => exact hif h
    | _ => cases h
  | minItems n =>
    cases v with
    | array vs => exact hif h
    | _ => cases h
  | maxItems n => exact hif h
  | pattern t =>
    cases v with
    | text s => exact hif h
    | _ => cases h
  | _ => cases h

end

/-! ## §3. Visits. -/

/-- A visit: a keyword looks at a value.  With it come the properties of the keyword's schema, the
way to the value, and whether the value is the name of a field; then the way leads to the object
with the field. -/
structure Visit where
  path : List Step
  value : Json
  isName : Bool
  known : List String
  keyword : Keyword

namespace Visit

/-- The keyword of a visit holds of the value. -/
def Holds (x : Visit) : Prop := x.keyword.Holds x.known x.value

/-- The first fault that is found on a visit. -/
def fault? (x : Visit) : Option SchemaFault :=
  (x.keyword.ownFaults x.known x.value).head?.map fun f => ⟨x.path, f.violation⟩

/-- A visit in a part of a value. -/
def within (p : Part) (x : Visit) : Visit :=
  { x with path := p.step.toList ++ x.path, isName := x.isName || p.step.isNone }

/-- The value of a visit stands in another value, where its way leads. -/
structure StandsIn (x : Visit) (v : Json) : Prop where
  value : x.isName = false → v.Leads x.path x.value
  name : x.isName = true → ∃ fields name, v.Leads x.path (.object fields) ∧
    name ∈ fields.map Prod.fst ∧ x.value = .text name

end Visit

/-- The visits that a schema makes to a value, with their numbers. -/
inductive Schema.Visits : Schema → Json → List Nat → Visit → Prop
  | ref {name : String} {target : Schema} {v : Json} {place : List Nat} {x : Visit}
      (h : Visits target v place x) : Visits (.ref name target) v place x
  | own {ks : List Keyword} {v : Json} {i : Nat} {k : Keyword} (hk : ks[i]? = some k)
      (hlooks : k.looksAt = true) :
      Visits (.keywords ks) v [i] ⟨[], v, false, Keyword.propertiesOf ks, k⟩
  | part {ks : List Keyword} {v : Json} {i j : Nat} {k : Keyword} {p : Part} {place : List Nat}
      {x : Visit} (hk : ks[i]? = some k)
      (hp : (k.parts (Keyword.propertiesOf ks) v)[j]? = some p)
      (h : Visits p.schema p.value place x) :
      Visits (.keywords ks) v (i :: j :: place) (x.within p)

/-- The first visit to a value on which a keyword does not hold. -/
structure Schema.FirstAt (s : Schema) (v : Json) (place : List Nat) (x : Visit) : Prop where
  visits : s.Visits v place x
  violates : ¬ x.Holds
  earlier : ∀ place' x', s.Visits v place' x' → place' < place → x'.Holds

namespace Schema

variable {s : Schema} {v : Json} {place : List Nat} {x : Visit}

/-- **A visit is made to something that is in the value.** -/
theorem Visits.standsIn (h : s.Visits v place x) : x.StandsIn v := by
  induction h with
  | ref _ ih => exact ih
  | own hk hlooks => exact ⟨fun _ => .here _, nofun⟩
  | @part ks v i j k p place x hk hp h ih =>
    obtain ⟨hstep, hname⟩ := Keyword.leads_of_mem_parts (List.mem_of_getElem? hp)
    cases hs : p.step with
    | some step =>
      have hpath : (x.within p).path = step :: x.path := by simp [Visit.within, hs]
      have hisName : (x.within p).isName = x.isName := by simp [Visit.within, hs]
      constructor
      · intro hvalue
        rw [hpath]
        exact hstep step hs (ih.value (hisName.symm.trans hvalue))
      · intro hvalue
        obtain ⟨fields, name, hleads, hmem, hx⟩ := ih.name (hisName.symm.trans hvalue)
        rw [hpath]
        exact ⟨fields, name, hstep step hs hleads, hmem, hx⟩
    | none =>
      -- Nothing can be looked into in a name, so the way ends at the object.
      obtain ⟨fields, name, rfl, hmem, hp⟩ := hname hs
      rw [hp] at ih
      have hend : x.path = [] ∧ x.value = .text name := by
        cases hx : x.isName with
        | false => exact (ih.value hx).of_text
        | true =>
          obtain ⟨fields', name', hleads, -, -⟩ := ih.name hx
          cases hleads.of_text.2
      have hpath : (x.within p).path = [] := by simp [Visit.within, hs, hend.1]
      refine ⟨fun hvalue => ?_, fun _ => ?_⟩
      · simp [Visit.within, hs] at hvalue
      · rw [hpath]
        exact ⟨fields, name, .here _, hmem, hend.2⟩

/-- A number belongs to one visit. -/
theorem Visits.unique (h : s.Visits v place x) {y : Visit} (h' : s.Visits v place y) : x = y := by
  induction h generalizing y with
  | ref _ ih =>
    cases h' with
    | ref h' => exact ih h'
  | own hk hlooks =>
    cases h' with
    | own hk' _ =>
      rw [Option.some.inj (hk.symm.trans hk')]
  | part hk hp _ ih =>
    cases h' with
    | part hk' hp' h' =>
      cases Option.some.inj (hk.symm.trans hk')
      cases Option.some.inj (hp.symm.trans hp')
      rw [ih h']

/-- A keyword that looks into a value cannot be one that looks at it alone. -/
theorem looksAt_of_mem_parts {known : List String} {k : Keyword} {p : Part}
    (h : p ∈ k.parts known v) : k.looksAt = false := by
  cases k <;> first | rfl | cases h

/-- Where a keyword finds nothing, nothing is wrong with the parts that it looks into. -/
theorem faults_of_mem_parts {known : List String} {k : Keyword} {p : Part}
    (h : p ∈ k.parts known v) (hnone : k.faults known v = []) : p.schema.faults p.value = [] := by
  rw [Keyword.faults_eq, looksAt_of_mem_parts h, if_neg Bool.false_ne_true,
    List.flatMap_eq_nil_iff] at hnone
  exact List.map_eq_nil_iff.1 (hnone p h)

/-- On no visit to a value without faults does a keyword fail to hold. -/
theorem Visits.holds (h : s.Visits v place x) (hnone : s.faults v = []) : x.Holds := by
  induction h with
  | ref _ ih => exact ih hnone
  | @own ks v i k hk hlooks =>
    rw [faults, Keyword.faultsOf_eq, List.flatMap_eq_nil_iff] at hnone
    exact (Keyword.faults_eq_nil_iff _ k v).1 (hnone k (List.mem_of_getElem? hk))
  | @part ks v i j k p place x hk hp _ ih =>
    rw [faults, Keyword.faultsOf_eq, List.flatMap_eq_nil_iff] at hnone
    exact ih (faults_of_mem_parts (List.mem_of_getElem? hp) (hnone k (List.mem_of_getElem? hk)))

/-! ## §4. The first fault. -/

/-- Where the keywords in front find nothing, no visit in front of a keyword finds anything. -/
theorem Visits.holds_of_before {ks : List Keyword} {i j : Nat}
    (h : (keywords ks).Visits v (j :: place) x) (hj : j < i)
    (hnone : ∀ j < i, ∀ k, ks[j]? = some k → k.faults (Keyword.propertiesOf ks) v = []) :
    x.Holds := by
  cases h with
  | @own _ _ _ k hk hlooks => exact (Keyword.faults_eq_nil_iff _ k v).1 (hnone j hj k hk)
  | @part _ _ _ m k p place x hk hp h =>
    exact h.holds (faults_of_mem_parts (List.mem_of_getElem? hp) (hnone j hj k hk))

/-- The first result in a list of lists comes from one of them, and those before it are empty. -/
theorem head?_flatMap_eq_some {α β : Type} {xs : List α} {g : α → List β} {b : β}
    (h : (xs.flatMap g).head? = some b) :
    ∃ (i : Nat) (a : α), xs[i]? = some a ∧ (g a).head? = some b ∧
      ∀ j < i, ∀ a', xs[j]? = some a' → g a' = [] := by
  rw [List.head?_flatMap, List.findSome?_eq_some_iff] at h
  obtain ⟨before, a, after, rfl, ha, hnone⟩ := h
  refine ⟨before.length, a, by simp, ha, ?_⟩
  intro j hj a' ha'
  rw [List.getElem?_append_left hj] at ha'
  exact List.head?_eq_none_iff.1 (hnone a' (List.mem_of_getElem? ha'))

theorem FirstAt.ref {name : String} {target : Schema} (h : target.FirstAt v place x) :
    (Schema.ref name target).FirstAt v place x where
  visits := .ref h.visits
  violates := h.violates
  earlier := by
    intro place' x' h' hlt
    cases h' with
    | ref h' => exact h.earlier place' x' h' hlt

section

variable {ks : List Keyword} {i : Nat} {k : Keyword}

/-- The first keyword that finds anything finds it by looking at the value. -/
theorem firstAt_own {f : SchemaFault} (hk : ks[i]? = some k) (hlooks : k.looksAt = true)
    (hhead : (k.ownFaults (Keyword.propertiesOf ks) v).head? = some f)
    (hbefore : ∀ j < i, ∀ k', ks[j]? = some k' → k'.faults (Keyword.propertiesOf ks) v = []) :
    (keywords ks).FirstAt v [i] ⟨[], v, false, Keyword.propertiesOf ks, k⟩ where
  visits := .own hk hlooks
  violates := by
    intro hholds
    have hnone : k.faults (Keyword.propertiesOf ks) v = [] :=
      (Keyword.faults_eq_nil_iff _ k v).2 hholds
    rw [Keyword.faults_eq, if_pos hlooks] at hnone
    rw [hnone] at hhead
    cases hhead
  earlier := by
    intro place' x' h' hlt
    -- A number in front of a single digit begins with a smaller one.
    cases h' with
    | own hk' hlooks' =>
      have hj := (List.cons_lt_cons_iff.1 hlt).resolve_right (by simp)
      exact (Visits.own hk' hlooks').holds_of_before hj hbefore
    | part hk' hp' h' =>
      have hj := (List.cons_lt_cons_iff.1 hlt).resolve_right (by simp)
      exact (Visits.part hk' hp' h').holds_of_before hj hbefore

/-- The first keyword that finds anything finds it in a part, and nothing in the parts in front. -/
theorem FirstAt.part {j : Nat} {p : Part} (h : p.schema.FirstAt p.value place x)
    (hk : ks[i]? = some k) (hp : (k.parts (Keyword.propertiesOf ks) v)[j]? = some p)
    (hbefore : ∀ i' < i, ∀ k', ks[i']? = some k' → k'.faults (Keyword.propertiesOf ks) v = [])
    (hearlier : ∀ j' < j, ∀ p', (k.parts (Keyword.propertiesOf ks) v)[j']? = some p' →
      p'.faults = []) :
    (keywords ks).FirstAt v (i :: j :: place) (x.within p) where
  visits := .part hk hp h.visits
  violates := h.violates
  earlier := by
    intro place' x' h' hlt
    cases h' with
    | @own _ _ i' k' hk' hlooks' =>
      rcases List.cons_lt_cons_iff.1 hlt with hi | ⟨hi, -⟩
      · exact (Visits.own hk' hlooks').holds_of_before hi hbefore
      · rw [hi, hk] at hk'
        cases hk'
        rw [looksAt_of_mem_parts (List.mem_of_getElem? hp)] at hlooks'
        cases hlooks'
    | @part _ _ i' j' k' p' place' x' hk' hp' h' =>
      rcases List.cons_lt_cons_iff.1 hlt with hi | ⟨hi, hlt⟩
      · exact (Visits.part hk' hp' h').holds_of_before hi hbefore
      · rw [hi, hk] at hk'
        cases hk'
        rcases List.cons_lt_cons_iff.1 hlt with hj | ⟨hj, hlt⟩
        · exact h'.holds (List.map_eq_nil_iff.1 (hearlier j' hj p' hp'))
        · rw [hj, hp] at hp'
          cases hp'
          exact h.earlier place' x' h' hlt

end

/-- **The first fault is the one that is found on the first visit on which a keyword does not
hold.**  By induction on the schema: the first keyword that finds anything looks at the value, or
finds it in a part, of which the schema is smaller. -/
theorem exists_firstAt (s : Schema) (v : Json) {f : SchemaFault} (h : s.fault? v = some f) :
    ∃ place x, s.FirstAt v place x ∧ x.fault? = some f := by
  match s with
  | .ref name target =>
    obtain ⟨place, x, hfirst, hf⟩ := exists_firstAt target v h
    exact ⟨place, x, hfirst.ref, hf⟩
  | .keywords ks =>
    have h : (Keyword.faultsOf (Keyword.propertiesOf ks) ks v).head? = some f := h
    rw [Keyword.faultsOf_eq] at h
    obtain ⟨i, k, hk, hhead, hbefore⟩ := head?_flatMap_eq_some h
    rw [Keyword.faults_eq] at hhead
    by_cases hlooks : k.looksAt = true
    · rw [if_pos hlooks] at hhead
      refine ⟨[i], _, firstAt_own hk hlooks hhead hbefore, ?_⟩
      have hpath : f.path = [] := Keyword.path_of_mem_ownFaults (List.mem_of_head? hhead)
      show (k.ownFaults _ v).head?.map _ = some f
      rw [hhead, Option.map_some, ← hpath]
    · rw [if_neg hlooks] at hhead
      obtain ⟨j, p, hp, hpart, hearlier⟩ := head?_flatMap_eq_some hhead
      unfold Part.faults at hpart
      rw [List.head?_map, Option.map_eq_some_iff] at hpart
      obtain ⟨f', hf', rfl⟩ := hpart
      have hsmaller : sizeOf p.schema < 1 + sizeOf ks := by
        have hkeyword := List.sizeOf_lt_of_mem (List.mem_of_getElem? hk)
        have hschema := Keyword.sizeOf_of_mem_parts (List.mem_of_getElem? hp)
        omega
      obtain ⟨place, x, hfirst, hx⟩ := exists_firstAt p.schema p.value hf'
      refine ⟨i :: j :: place, x.within p, hfirst.part hk hp hbefore hearlier, ?_⟩
      obtain ⟨own, hown, rfl⟩ := Option.map_eq_some_iff.1 hx
      exact Option.map_eq_some_iff.2 ⟨own, hown, rfl⟩
termination_by sizeOf s

/-- There is one first visit at most on which a keyword does not hold. -/
theorem FirstAt.unique (h : s.FirstAt v place x) {place' : List Nat} {y : Visit}
    (h' : s.FirstAt v place' y) : x = y := by
  have hnot : ¬ place < place' := fun hlt => h.violates (h'.earlier _ _ h.visits hlt)
  have hnot' : ¬ place' < place := fun hlt => h'.violates (h.earlier _ _ h'.visits hlt)
  have hplace : place = place' := List.le_antisymm (List.not_lt.1 hnot') (List.not_lt.1 hnot)
  subst hplace
  exact h.visits.unique h'.visits

theorem fault?_eq_some_iff {f : SchemaFault} :
    s.fault? v = some f ↔ ∃ place x, s.FirstAt v place x ∧ x.fault? = some f := by
  constructor
  · exact exists_firstAt s v
  · rintro ⟨place, x, hfirst, hx⟩
    cases hf : s.fault? v with
    | none => exact absurd (hfirst.visits.holds (List.head?_eq_none_iff.1 hf)) hfirst.violates
    | some f' =>
      obtain ⟨place', y, hfirst', hy⟩ := exists_firstAt s v hf
      rw [hfirst.unique hfirst', hy] at hx
      exact hx

theorem check_eq_error_iff {e : Problem} :
    s.check v = .error e ↔ ∃ f, s.fault? v = some f ∧ e = .schema f.message := by
  unfold check
  cases s.fault? v with
  | none => simp
  | some f => simp [eq_comm]

end Schema

/-! ## §5. Messages. -/

/-- A text between quotes does not end in a blank. -/
theorem Text.getLast?_quote (s : String) : (quote s).toList.getLast? ≠ some ' ' := by
  have hdelimiter : delimiter s.toList ≠ ' ' := by
    unfold delimiter
    split <;> decide
  unfold quote quoted
  rw [String.toList_ofList, List.getLast?_concat]
  simpa using hdelimiter

/-- No violation is told with a blank at the end. -/
theorem Violation.getLast?_message (w : Violation) : w.message.toList.getLast? ≠ some ' ' := by
  -- What comes last in the text is never empty.
  have hlast : ∀ {a b : String}, b ≠ "" → b.toList.getLast? ≠ some ' ' →
      (a ++ b).toList.getLast? ≠ some ' ' := by
    intro a b hsome hb
    rw [String.toList_append, List.getLast?_append]
    cases hend : b.toList.getLast? with
    | none => exact absurd (String.toList_injective (List.getLast?_eq_none_iff.1 hend)) hsome
    | some c =>
      rw [hend] at hb
      exact hb
  have hquote : ∀ s : String, quote s ≠ "" := by
    intro s hempty
    have hlength := congrArg (fun t => t.toList.length) hempty
    simp [quote, quoted] at hlength
  cases w with
  | wrongType value expected => exact hlast (hquote _) (Text.getLast?_quote _)
  | missing name => exact hlast (by decide) (by decide)
  | unexpected names => exact hlast (by decide) (by decide)
  | tooShort value bound =>
    show (_ ++ if bound = 1 then _ else _ : String).toList.getLast? ≠ some ' '
    split <;> exact hlast (by decide) (by decide)
  | tooLong value bound =>
    show (_ ++ if bound = 0 then _ else _ : String).toList.getLast? ≠ some ' '
    split <;> exact hlast (by decide) (by decide)
  | noMatch text form => exact hlast (hquote _) (Text.getLast?_quote _)

/-- A way with a text at its first step has a text. -/
theorem pathText_ne_empty {step : Step} {rest : List Step} (h : step.text ≠ "") :
    pathText (step :: rest) ≠ "" := by
  intro hempty
  unfold pathText at hempty
  cases rest with
  | nil =>
    rw [List.map_cons, List.map_nil, String.intercalate_singleton] at hempty
    exact h hempty
  | cons next rest =>
    rw [List.map_cons, List.map_cons, String.intercalate_cons_cons] at hempty
    have hlength := congrArg String.length hempty
    simp at hlength

namespace Schema

/-- Whatever is visited in a document is the document, or stands in one of its fields. -/
theorem path_of_visits {v : Json} {place : List Nat} {x : Visit} (h : grammar.Visits v place x) :
    x.path = [] ∨ ∃ step rest, x.path = step :: rest ∧ step.text ≠ "" := by
  cases h with
  | own hk hlooks => exact .inl rfl
  | @part _ _ i j k p place x hk hp h =>
    right
    have hkeyword := List.mem_of_getElem? hk
    have hpart := List.mem_of_getElem? hp
    simp only [documentKeywords, List.mem_cons, List.not_mem_nil, or_false] at hkeyword
    rcases hkeyword with rfl | rfl | rfl | rfl
    · cases hpart
    · cases hpart
    · cases hpart
    · obtain ⟨q, hq, hsome⟩ := List.mem_filterMap.1 hpart
      obtain ⟨w, -, rfl⟩ := Option.map_eq_some_iff.1 hsome
      refine ⟨.key q.1, x.path, rfl, ?_⟩
      show q.1 ≠ ""
      simp only [List.mem_cons, List.not_mem_nil, or_false] at hq
      rcases hq with rfl | rfl | rfl | rfl | rfl <;> decide

/-- The message of a fault ends with the way just if the way goes anywhere. -/
theorem message_ends_iff {f : SchemaFault}
    (h : f.path = [] ∨ ∃ step rest, f.path = step :: rest ∧ step.text ≠ "") :
    (∃ text, f.message = text ++ " at " ++ pathText f.path) ↔ f.path ≠ [] := by
  unfold SchemaFault.message
  rcases h with h | ⟨step, rest, h, hstep⟩
  · have hempty : pathText f.path = "" := by rw [h]; rfl
    rw [if_pos hempty, hempty, String.append_empty]
    refine iff_of_false ?_ (fun hne => hne h)
    rintro ⟨text, htext⟩
    refine f.violation.getLast?_message ?_
    rw [htext, String.append_empty, String.toList_append, List.getLast?_append]
    rfl
  · have hne : pathText f.path ≠ "" := by
      rw [h]
      exact pathText_ne_empty hstep
    rw [if_neg hne, ← String.append_assoc]
    exact iff_of_true ⟨_, rfl⟩ (by rw [h]; simp)

/-- **A value is refused for the first thing that is wrong with it, and is told where that is.**  Of
all visits to the value, the first one on which a keyword does not hold decides: a value is refused
with a problem just if there is such a visit and the problem tells the first fault found there.  The
way leads to a value that is there and of which the keyword does not hold; if the keyword looks at
the name of a field, it leads to the object with this field.  The message ends with the way just if
the way goes anywhere. -/
theorem check_eq_error_iff_firstAt (v : Json) (e : Problem) :
    grammar.check v = .error e ↔
      ∃ place x f, grammar.FirstAt v place x ∧ x.fault? = some f ∧ x.StandsIn v ∧
        f.path = x.path ∧
          ((∃ text, f.message = text ++ " at " ++ pathText f.path) ↔ f.path ≠ []) ∧
            e = .schema f.message := by
  rw [check_eq_error_iff]
  constructor
  · rintro ⟨f, hf, he⟩
    obtain ⟨place, x, hfirst, hx⟩ := fault?_eq_some_iff.1 hf
    have hpath : f.path = x.path := by
      obtain ⟨own, -, rfl⟩ := Option.map_eq_some_iff.1 hx
      rfl
    have hends := path_of_visits hfirst.visits
    rw [← hpath] at hends
    exact ⟨place, x, f, hfirst, hx, hfirst.visits.standsIn, hpath, message_ends_iff hends, he⟩
  · rintro ⟨place, x, f, hfirst, hx, -, -, -, he⟩
    exact ⟨f, fault?_eq_some_iff.2 ⟨place, x, hfirst, hx⟩, he⟩

/-- A document with file types and a pattern that is none is refused for its file types. -/
example :
    grammar.check (.object [("patterns", .array [.object []]), ("fileTypes", .array [.text "js"]),
      ("name", .text "n"), ("scopeName", .text "a.b")]) =
        .error (.schema "['js'] is expected to be empty at fileTypes") := by decide +kernel

end Schema

end QuasiGrammar
