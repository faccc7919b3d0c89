import QuasiGrammar.Proofs.Yaml.Nodes
import QuasiGrammar.Proofs.Yaml.Scalars

/-
  QuasiGrammar.Proofs.Yaml.Defects
  ────────────────────────────────
  Why the reading of a YAML text ends in a defect.

  A check of the graph looks at each scalar in turn and replaces merge keys on
  its way.  Neither makes a node what the tokens do not say: what is replaced
  are the entries of maps (`Flattened`), and a key changes only into a text.  So
  a defect is one of a token or of a scalar as its tokens give it.

      NodeDefect     the defects of scalars
      HasDefect      the defects of a text
      read_defect    the reading of a text ends in no other defect
-/

namespace QuasiGrammar.Yaml

/-! ## §1. Defects of nodes. -/

/-- Some key can stand for the value of its map: a plain one, or one with a tag. -/
def HasValueKey (ts : List Token) : Prop :=
  (∃ text, Token.scalar text true ∈ ts ∧ Kind.ofPlain text = .value) ∨ HasTag ts

/-- The defects of nodes: a plain scalar without a tag that cannot be read as what it looks like,
a map that stands for itself in the end, and, where tags are used, a scalar that its kind cannot
read or a map in the place of a date. -/
inductive NodeDefect (ts : List Token) : Defect → Prop
  | plain {node : Nat} {text : List Char} {d : Defect} (htoken : Token.scalar text true ∈ ts)
      (h : scalarValue node (.ofPlain text) text = .error (.defect d)) : NodeDefect ts d
  | tagged {node : Nat} {kind : Kind} {text : List Char} {d : Defect} (htag : HasTag ts)
      (htext : IsTextOf ts text) (h : scalarValue node kind text = .error (.defect d)) :
      NodeDefect ts d
  | mapForDate (htag : HasTag ts) : NodeDefect ts .mapForDate
  | endless (hkey : HasValueKey ts) : NodeDefect ts .stackExhausted

section Values

variable {ts : List Token}

/-- A step that gives something, or one of some defects. -/
theorem within_of_defects {α : Type} {L : Defect → Prop} {x : Step α}
    (h : ∀ d, x = .error (.defect d) → L d) : Within L (fun _ => True) x := by
  match x, h with
  | .ok _, _ => exact trivial
  | .error .malformed, _ => exact trivial
  | .error .strayHalf, _ => exact trivial
  | .error (.defect d), h => exact h d rfl

/-- A scalar that is read as its kind asks. -/
theorem within_scalarValue {node : Nat} {kind : Kind} {content : Content} {text : List Char}
    (horigin : Origin ts kind content) (hkind : kind.isCollection = false)
    (htext : IsTextOf ts text) (hown : ∀ own, content = .scalar own → text = own) :
    Within (NodeDefect ts) (fun _ => True) (scalarValue node kind text) := by
  cases horigin with
  | plain h =>
    cases hown _ rfl
    rcases h with rfl | htoken
    · exact trivial
    · exact within_of_defects fun _ => .plain htoken
  | text => exact trivial
  | collection h => rw [hkind] at h; cases h
  | tagged htag => exact within_of_defects fun _ => .tagged htag htext

/-- A key of this kind is a plain one or has a tag. -/
theorem hasValueKey_of_origin {kind : Kind} {content : Content} (horigin : Origin ts kind content)
    (hkind : kind = .value) : HasValueKey ts := by
  cases horigin with
  | @plain text h =>
    rcases h with rfl | htoken
    · exact absurd hkind (by decide)
    · exact .inl ⟨text, htoken, hkind⟩
  | text => cases hkind
  | collection h => rw [hkind] at h; cases h
  | tagged htag => exact .inr htag

/-- Only a tag makes a map stand in the place of a date. -/
theorem hasTag_of_map {kind : Kind} {entries : List (Nat × Nat)}
    (horigin : Origin ts kind (.map entries)) (hkind : kind = .timestamp) : HasTag ts := by
  cases horigin with
  | text => cases hkind
  | collection h => rw [hkind] at h; cases h
  | tagged htag => exact htag

end Values

namespace Graph

variable {ts : List Token} {g : Graph}

/-- A node is as its tokens say, or there is no such node. -/
theorem IsFrom.node (hg : g.IsFrom ts) (number : Nat) :
    g.kind number = .unknown ∧ g.content number = .list [] ∨
      Node.IsFrom ts ⟨g.kind number, g.content number⟩ := by
  unfold kind content
  cases hnode : g[number]? with
  | none => exact .inl ⟨rfl, rfl⟩
  | some node => exact .inr (hg node (Array.mem_of_getElem? hnode))

/-! ## §2. Merge keys. -/

/-- A node is a map. -/
def IsMap (g : Graph) (number : Nat) : Prop :=
  ∃ kind entries, g[number]? = some ⟨kind, .map entries⟩

theorem content_eq_map {number : Nat} (h : (g.entries? number).isSome = true) :
    ∃ entries, g.content number = .map entries := by
  unfold entries? at h
  split at h
  · next entries hmap => exact ⟨entries, hmap⟩
  · cases h

theorem isMap_of_entries? {number : Nat} {entries : List (Nat × Nat)}
    (h : g.entries? number = some entries) : g.IsMap number := by
  obtain ⟨own, hmap⟩ := content_eq_map (h ▸ rfl : (g.entries? number).isSome = true)
  unfold content at hmap
  cases hnode : g[number]? with
  | none => simp [hnode] at hmap
  | some node =>
    obtain ⟨kind, content⟩ := node
    simp only [hnode, Option.map_some, Option.getD_some] at hmap
    exact ⟨kind, own, hmap ▸ hnode⟩

/-- A graph that has been made out of another by changing the entries of its maps. -/
structure Flattened (ts : List Token) (g g' : Graph) : Prop where
  nodes : g'.IsFrom ts
  maps : ∀ number, g.IsMap number → g'.IsMap number

theorem Flattened.refl (hg : g.IsFrom ts) : Flattened ts g g := ⟨hg, fun _ h => h⟩

theorem Flattened.trans {g' g'' : Graph} (h : Flattened ts g g') (h' : Flattened ts g' g'') :
    Flattened ts g g'' :=
  ⟨h'.nodes, fun number hnumber => h'.maps number (h.maps number hnumber)⟩

theorem isFrom_modify {number : Nat} {f : Node → Node} (hg : g.IsFrom ts)
    (hf : ∀ node, g[number]? = some node → node.IsFrom ts → (f node).IsFrom ts) :
    Graph.IsFrom ts (g.modify number f) := fun node hnode => by
  obtain ⟨i, hi⟩ := Array.mem_iff_getElem?.1 hnode
  rw [Array.getElem?_modify] at hi
  split at hi
  · next heq =>
    subst heq
    obtain ⟨old, hold, rfl⟩ := Option.map_eq_some_iff.1 hi
    exact hf old hold (hg old (Array.mem_of_getElem? hold))
  · exact hg node (Array.mem_of_getElem? hi)

/-- A map has been given other entries. -/
theorem flattened_setMap {number : Nat} (entries : List (Nat × Nat)) (hg : g.IsFrom ts)
    (hmap : g.IsMap number) : Flattened ts g (g.setContent number (.map entries)) := by
  obtain ⟨kind, old, hnumber⟩ := hmap
  refine ⟨isFrom_modify hg fun node hnode hfrom => ?_, fun m hm => ?_⟩
  · -- A plain scalar is no map, and the other origins do not look at the content.
    cases hnumber.symm.trans hnode
    refine ⟨?_, isFrom_map entries⟩
    cases hfrom.origin with
    | text => exact .text
    | collection h => exact .collection h
    | tagged h => exact .tagged h
  · obtain ⟨kind', entries', hm⟩ := hm
    unfold IsMap setContent
    rw [Array.getElem?_modify, hm]
    split
    · exact ⟨kind', entries, rfl⟩
    · exact ⟨kind', entries', rfl⟩

/-- A key has become a text. -/
theorem flattened_setText (number : Nat) (hg : g.IsFrom ts) :
    Flattened ts g (g.setKind number .text) := by
  refine ⟨isFrom_modify hg fun _ _ hfrom => ⟨.text, hfrom.content⟩, fun m hm => ?_⟩
  obtain ⟨kind, entries, hm⟩ := hm
  unfold IsMap setKind
  rw [Array.getElem?_modify, hm]
  split
  · exact ⟨.text, entries, rfl⟩
  · exact ⟨kind, entries, rfl⟩

/-- A step that makes a graph out of another, and ends in no defect. -/
def Flattens (ts : List Token) (g : Graph) (x : Step Graph) : Prop :=
  Within (fun _ => False) (Flattened ts g) x

section Flatten

variable {flatten : Graph → Nat → Step Graph}
  (hflatten : ∀ g : Graph, g.IsFrom ts → ∀ number, Flattens ts g (flatten g number))

include hflatten

theorem within_takeOver (hg : g.IsFrom ts) (value : Nat) :
    Within (fun _ => False) (fun p => Flattened ts g p.2) (takeOver flatten value g) := by
  unfold takeOver
  split
  · exact within_bind (hflatten g hg value) fun _ h => h
  · refine within_foldlM (Flattened.refl hg) fun p item hp => ?_
    exact within_bind (hflatten p.2 hp.nodes item) fun _ h => hp.trans h
  · exact trivial

theorem flattens_flattenFrom {number : Nat} (entries merged kept : List (Nat × Nat))
    (hg : g.IsFrom ts) (hmap : g.IsMap number) :
    Flattens ts g (flattenFrom flatten number merged kept entries g) := by
  -- The map stays one, whatever other maps are changed before its last entry is reached.
  induction entries generalizing merged kept g with
  | nil => exact flattened_setMap _ hg hmap
  | cons e rest ih =>
    unfold flattenFrom
    simp only
    split
    · have hleft := flattened_setMap (kept ++ rest) hg hmap
      refine within_bind (within_takeOver hflatten hleft.nodes e.2) fun p hp => ?_
      have htaken : Flattened ts g p.2 := hleft.trans hp
      have hmap' := htaken.maps number hmap
      split
      · exact within_mono (fun _ h => h) (fun _ h => htaken.trans h)
          (ih (merged ++ p.1) kept htaken.nodes hmap')
      · exact htaken.trans (flattened_setMap _ htaken.nodes hmap')
    · have htext : Flattened ts g (if g.kind e.1 = .value then g.setKind e.1 .text else g) := by
        split
        · exact flattened_setText e.1 hg
        · exact .refl hg
      exact within_mono (fun _ h => h) (fun _ h => htext.trans h)
        (ih merged (kept ++ [e]) htext.nodes (htext.maps number hmap))

end Flatten

theorem flattens_flatten (fuel : Nat) (hg : g.IsFrom ts) (number : Nat) :
    Flattens ts g (flatten fuel g number) := by
  induction fuel generalizing g number with
  | zero => exact trivial
  | succ fuel ih =>
    unfold flatten
    split
    · exact trivial
    · next entries h =>
      exact flattens_flattenFrom (fun g hg number => ih hg number) entries [] [] hg
        (isMap_of_entries? h)

/-! ## §3. Scalars. -/

/-- The text that is taken for a scalar is that of some scalar, and its own if it has one.  Only a
key that stands for the value of its map leads on and on. -/
theorem within_scalarText (fuel : Nat) (hg : g.IsFrom ts) (number : Nat) :
    Within (fun d => d = .stackExhausted ∧ (fuel = 0 ∨ HasValueKey ts))
      (fun text => IsTextOf ts text ∧ ∀ own, g.content number = .scalar own → text = own)
      (g.scalarText fuel number) := by
  induction fuel generalizing number with
  | zero => exact ⟨rfl, .inl rfl⟩
  | succ fuel ih =>
    unfold scalarText
    split
    · next text h =>
      refine ⟨?_, fun own hown => ?_⟩
      · rcases hg.node number with ⟨-, hnone⟩ | hnode
        · cases hnone.symm.trans h
        · exact hnode.content text h
      · cases h.symm.trans hown
        rfl
    · exact trivial
    · next h =>
      -- A map has no text of its own, so that of its value may be any.
      split
      · next e he =>
        have hkey : HasValueKey ts := by
          have hvalue : g.kind e.1 = .value := by simpa using List.find?_some he
          rcases hg.node e.1 with ⟨hunknown, -⟩ | hnode
          · cases hunknown.symm.trans hvalue
          · exact hasValueKey_of_origin hnode.origin hvalue
        exact within_mono (fun _ hd => ⟨hd.1, .inr hkey⟩) (fun text htext => ⟨htext.1, fun own hown =>
          nomatch h.symm.trans hown⟩) (ih _)
      · exact trivial

end Graph

/-! ## §4. Checking. -/

namespace Survey

variable {ts : List Token} {s : Survey}

/-- A step of a check, of which the graph stays one that comes from the tokens, and which ends in no
other defect than those of nodes. -/
def Checks (ts : List Token) (x : Step Survey) : Prop :=
  Within (NodeDefect ts) (fun s => s.graph.IsFrom ts) x

theorem checks_meet (hs : s.graph.IsFrom ts) (number : Nat) : Checks ts (s.meet number) := by
  unfold meet
  simp only
  split
  · exact hs
  split
  · exact hs
  split
  · next hkind _ =>
    have hnode := hs.node number
    refine within_bind (within_mono (fun d hd => ?_) (fun _ h => h)
      (Graph.within_scalarText _ hs number)) fun text htext => ?_
    · obtain ⟨rfl, hzero | hkey⟩ := hd
      · cases hzero
      · exact .endless hkey
    · have hvalue : Within (NodeDefect ts) (fun _ => True)
          (scalarValue number (s.graph.kind number) text) := by
        rcases hnode with ⟨hunknown, -⟩ | hnode
        · rw [hunknown]
          exact trivial
        · exact within_scalarValue hnode.origin (Bool.eq_false_iff.2 hkind) htext.1 htext.2
      split
      · next hdate =>
        obtain ⟨hdate, hmap⟩ := Bool.and_eq_true_iff.1 hdate
        have hdate := of_decide_eq_true hdate
        rcases hnode with ⟨hunknown, -⟩ | hnode
        · cases hunknown.symm.trans hdate
        · obtain ⟨entries, hentries⟩ := Graph.content_eq_map hmap
          exact .mapForDate (hasTag_of_map (hentries ▸ hnode.origin) hdate)
      · exact within_bind hvalue fun _ _ => hs
  · exact trivial

theorem checks_meetKey (hs : s.graph.IsFrom ts) (number : Nat) : Checks ts (s.meetKey number) :=
  within_bind (checks_meet hs number) fun s hs => by
    split
    · exact trivial
    · exact hs

theorem checks_meetEntries {meetFirst : Survey → Nat → Step Survey} (hs : s.graph.IsFrom ts)
    (hfirst : ∀ {s : Survey}, s.graph.IsFrom ts → ∀ number, Checks ts (meetFirst s number))
    (entries : List (Nat × Nat)) : Checks ts (s.meetEntries entries meetFirst) :=
  within_foldlM hs fun _ e hs => within_bind (hfirst hs e.1) fun _ hs => checks_meet hs e.2

theorem checks_visit (hs : s.graph.IsFrom ts) (number : Nat) : Checks ts (s.visit number) := by
  have hflatten : Checks ts (s.graph.flatten (s.graph.entryCount + 2) number >>= fun g =>
      { s with graph := g }.meetEntries ((g.entries? number).getD []) meetKey) :=
    within_bind (within_mono (fun _ h => h.elim) (fun _ h => h)
      (Graph.flattens_flatten (s.graph.entryCount + 2) hs number)) fun _ hg =>
        checks_meetEntries hg.nodes checks_meetKey _
  unfold visit
  simp only
  split
  · exact within_foldlM hs fun s item hs => checks_meet hs item
  · refine within_foldlM hs fun s item hs => ?_
    split
    · exact checks_meetEntries hs checks_meet _
    · exact trivial
  · refine within_foldlM hs fun s item hs => ?_
    split
    · exact checks_meetEntries hs checks_meet _
    · exact trivial
  · exact hflatten
  · exact hflatten
  · exact trivial

theorem checks_run (fuel : Nat) (hs : s.graph.IsFrom ts) : Checks ts (run fuel s) := by
  induction fuel generalizing s with
  | zero => exact hs
  | succ fuel ih =>
    unfold run
    split
    · exact hs
    · next number rest _ =>
      have hrest : Graph.IsFrom ts { s with waiting := rest }.graph := hs
      exact within_bind (checks_visit hrest number) fun _ hs => ih hs

end Survey

/-! ## §5. Texts. -/

/-- The defects of a text. -/
inductive HasDefect (cs : List Char) (d : Defect) : Prop
  | token (htokens : (tokens cs).2 = some (.defect d)) (h : IsTokenDefect d) : HasDefect cs d
  | node (h : NodeDefect (tokens cs).1 d) : HasDefect cs d

/-- All defects that texts have. -/
theorem HasDefect.cases {cs : List Char} {d : Defect} (h : HasDefect cs d) :
    IsTokenDefect d ∨ (∃ kind, ScalarDefect kind d) ∨ d = .mapForDate ∨ d = .stackExhausted := by
  cases h with
  | token _ h => exact .inl h
  | node h =>
    cases h with
    | plain _ h => exact .inr (.inl ⟨_, scalarValue_defect h⟩)
    | tagged _ _ h => exact .inr (.inl ⟨_, scalarValue_defect h⟩)
    | mapForDate _ => exact .inr (.inr (.inl rfl))
    | endless _ => exact .inr (.inr (.inr rfl))

theorem within_value {ts : List Token} {g : Graph} (hg : g.IsFrom ts) (root : Nat) :
    Within (NodeDefect ts) (fun _ => True) (g.value root) :=
  within_bind (Survey.checks_meet hg root) fun _ hs =>
    within_bind (Survey.checks_run _ hs) fun _ _ => trivial

/-- **The reading of a text ends in no other defect than those of its tokens and of the scalars that
these give.** -/
theorem read_defect {cs : List Char} {d : Defect} (h : read cs = .error (.defect d)) :
    HasDefect cs d := by
  have hread : Within (HasDefect cs) (fun _ => True) (read cs) := by
    unfold read
    split
    · exact trivial
    · refine within_bind (within_mono (fun d hd => .token hd (tokens_defect hd)) (fun _ h => h)
        (Graph.read_within cs)) fun p hp => ?_
      split
      · exact trivial
      · exact within_mono (fun _ => .node) (fun _ h => h) (within_value hp _)
  rw [h] at hread
  exact hread

/-! ## §6. What the stack has room for. -/

/-- Whether a token begins a collection. -/
def Token.opens : Token → Bool
  | .blockSequenceStart | .blockMappingStart | .flowSequenceStart | .flowMappingStart => true
  | _ => false

/-- Whether a token ends a collection. -/
def Token.closes : Token → Bool
  | .blockEnd | .flowSequenceEnd | .flowMappingEnd => true
  | _ => false

/-- Whether a token refers to a node. -/
def Token.isAlias : Token → Bool
  | .alias _ => true
  | _ => false

/-- The number of collections that are open after a token. -/
def Token.depthAfter (t : Token) (depth : Nat) : Nat :=
  if t.opens then depth + 1 else if t.closes then depth - 1 else depth

/-- The greatest number of collections that are open at once, for a number that are open before the
tokens. -/
def greatestDepth (depth : Nat) : List Token → Nat
  | [] => depth
  | t :: ts => max depth (greatestDepth (t.depthAfter depth) ts)

/-- What bounds the number of collections that lie in one another, in the text or by reference.  No
way into them passes a token twice, and between two references it goes no deeper than the text. -/
def greatestReach (ts : List Token) : Nat :=
  min (ts.countP fun t => t.opens || t.isAlias)
    (greatestDepth 0 ts * (ts.countP Token.isAlias + 1))

/-- A number of collections in one another that every stack has room for. -/
def ampleDepth : Nat := 64

/-- A text whose collections no stack is exhausted by. -/
def IsShallow (cs : List Char) : Prop := greatestReach (tokens cs).1 ≤ ampleDepth

instance (cs : List Char) : Decidable (IsShallow cs) := inferInstanceAs (Decidable (_ ≤ _))

end QuasiGrammar.Yaml
