import QuasiGrammar.Proofs.Yaml.Tokens
import QuasiGrammar.Yaml.Reader

/-
  QuasiGrammar.Proofs.Yaml.Nodes
  ──────────────────────────────
  Where the nodes of a YAML text come from.

  A node without a tag is a plain scalar of the kind whose form its text has, a
  scalar of another style, which is a text, or a collection.  Only a tag gives a
  node a kind that its content may not suit.

      Origin       the kinds that a node with some content can have
      Keeps        a step of reading a document whose nodes come from its tokens
      read_within  all nodes of the graph of a text come from its tokens
-/

namespace QuasiGrammar.Yaml

/-! ## §1. Nodes and tokens. -/

/-- There is a tag among the tokens. -/
def HasTag (ts : List Token) : Prop := ∃ handle suffix, Token.tag handle suffix ∈ ts

/-- The texts of scalars: those of tokens, and that of a scalar without one. -/
def IsTextOf (ts : List Token) (text : List Char) : Prop :=
  text = [] ∨ ∃ plain, Token.scalar text plain ∈ ts

/-- What a node of some kind can hold, by the tokens that it comes from. -/
inductive Origin (ts : List Token) : Kind → Content → Prop
  | plain {text : List Char} (h : text = [] ∨ Token.scalar text true ∈ ts) :
      Origin ts (.ofPlain text) (.scalar text)
  | text {content : Content} : Origin ts .text content
  | collection {kind : Kind} {content : Content} (h : kind.isCollection = true) :
      Origin ts kind content
  | tagged {kind : Kind} {content : Content} (h : HasTag ts) : Origin ts kind content

/-- A text that is held comes from the tokens. -/
def Content.IsFrom (ts : List Token) (content : Content) : Prop :=
  ∀ text, content = .scalar text → IsTextOf ts text

/-- A node comes from the tokens. -/
structure Node.IsFrom (ts : List Token) (node : Node) : Prop where
  origin : Origin ts node.kind node.content
  content : node.content.IsFrom ts

section Content

variable {ts : List Token}

theorem isFrom_list (items : List Nat) : (Content.list items).IsFrom ts := fun _ h => nomatch h

theorem isFrom_map (entries : List (Nat × Nat)) : (Content.map entries).IsFrom ts :=
  fun _ h => nomatch h

/-- A tag comes from the tokens, if there is one. -/
def TagFrom (ts : List Token) (tag : Option (List Char)) : Prop := tag.isSome = true → HasTag ts

theorem origin_collectionKind {tag : Option (List Char)} {own : Kind} {content : Content}
    (htag : TagFrom ts tag) (hown : own.isCollection = true) :
    Origin ts (collectionKind tag own) content := by
  cases tag with
  | none => exact .collection hown
  | some t => exact .tagged (htag rfl)

theorem origin_scalarKind {tag : Option (List Char)} {text : List Char} {plain : Bool}
    (htag : TagFrom ts tag) (htext : plain = true → text = [] ∨ Token.scalar text true ∈ ts) :
    Origin ts (scalarKind tag text plain) (.scalar text) := by
  cases tag with
  | none =>
    cases plain with
    | false => exact .text
    | true => exact .plain (htext rfl)
  | some t => exact .tagged (htag rfl)

/-- A scalar without a token. -/
theorem isFrom_empty {tag : Option (List Char)} (htag : TagFrom ts tag) :
    Node.IsFrom ts ⟨scalarKind tag [] true, .scalar []⟩ where
  origin := origin_scalarKind htag fun _ => .inl rfl
  content := fun _ h => by
    cases h
    exact .inl rfl

theorem isFrom_scalar {tag : Option (List Char)} {text : List Char} {plain : Bool}
    (htag : TagFrom ts tag) (htoken : Token.scalar text plain ∈ ts) :
    Node.IsFrom ts ⟨scalarKind tag text plain, .scalar text⟩ where
  origin := origin_scalarKind htag fun h => by
    subst h
    exact .inr htoken
  content := fun _ h => by
    cases h
    exact .inr ⟨plain, htoken⟩

end Content

/-! ## §2. Steps of reading a document. -/

/-- A draft of which the tokens to come and the nodes so far are from some tokens, and which ends as
these do. -/
structure Draft.IsFrom (ts : List Token) (ending : Fault) (d : Draft) : Prop where
  rest : ∀ t ∈ d.rest, t ∈ ts
  ending : d.ending = ending
  nodes : ∀ node ∈ d.graph, node.IsFrom ts

/-- A step that keeps drafts in this state, ends in no other defect than the tokens do, and gives
what satisfies a condition. -/
def Gives {α : Type} (ts : List Token) (ending : Fault) (Q : α → Prop) (r : Reading α) : Prop :=
  ∀ d : Draft, d.IsFrom ts ending →
    Within (fun defect => ending = .defect defect) (fun p => Q p.1 ∧ p.2.IsFrom ts ending) (r d)

/-- A step that keeps drafts in this state, whatever it gives. -/
abbrev Keeps {α : Type} (ts : List Token) (ending : Fault) (r : Reading α) : Prop :=
  Gives ts ending (fun _ => True) r

section Steps

variable {α β : Type} {ts : List Token} {ending : Fault} {P : α → Prop} {Q : β → Prop}

theorem gives_pure {a : α} (h : P a) : Gives ts ending P (pure a) := fun _ hd => ⟨h, hd⟩

theorem gives_refuse : Gives ts ending P Reading.refuse := fun _ _ => trivial

theorem gives_bind {r : Reading α} {f : α → Reading β} (hr : Gives ts ending P r)
    (hf : ∀ a, P a → Gives ts ending Q (f a)) : Gives ts ending Q (r >>= f) :=
  fun d hd => within_bind (hr d hd) fun p hp => hf p.1 hp.1 p.2 hp.2

theorem gives_ite {p : Prop} [Decidable p] {r r' : Reading α} (h : Gives ts ending P r)
    (h' : Gives ts ending P r') : Gives ts ending P (if p then r else r') := by
  split
  · exact h
  · exact h'

theorem keeps_pure (a : α) : Keeps ts ending (pure a) := gives_pure trivial

theorem keeps_bind {r : Reading α} {f : α → Reading β} (hr : Keeps ts ending r)
    (hf : ∀ a, Gives ts ending Q (f a)) : Gives ts ending Q (r >>= f) :=
  gives_bind hr fun a _ => hf a

theorem keeps_map {r : Reading α} (f : α → β) (hr : Keeps ts ending r) : Keeps ts ending (f <$> r) :=
  keeps_bind hr fun _ => keeps_pure _

theorem keeps_get : Keeps ts ending (get : Reading Draft) := fun _ hd => ⟨trivial, hd⟩

/-- A step that changes a draft only in what its tokens and nodes do not tell. -/
theorem keeps_modify {f : Draft → Draft}
    (h : ∀ d : Draft, d.IsFrom ts ending → (f d).IsFrom ts ending) :
    Keeps ts ending (modify f : Reading Unit) := fun d hd => ⟨trivial, h d hd⟩

theorem gives_peekToken : Gives ts ending (· ∈ ts) peekToken := fun d hd => by
  unfold peekToken
  split
  · next t rest h => exact ⟨hd.rest t (h ▸ List.mem_cons_self), hd⟩
  · rw [hd.ending]
    cases ending with
    | malformed => exact trivial
    | defect defect => exact rfl
    | strayHalf => exact trivial

theorem keeps_takeToken : Keeps ts ending takeToken := fun _ hd =>
  ⟨trivial, fun t ht => hd.rest t (List.mem_of_mem_drop ht), hd.ending, hd.nodes⟩

theorem keeps_expectToken (t : Token) : Keeps ts ending (expectToken t) :=
  gives_bind gives_peekToken fun _ _ => gives_ite keeps_takeToken gives_refuse

/-! ### Nodes -/

theorem keeps_addNode {anchor : Option (List Char)} {node : Node} (h : node.IsFrom ts) :
    Keeps ts ending (addNode anchor node) := fun d hd => by
  have hnodes : ∀ m ∈ d.graph.push node, m.IsFrom ts := fun m hm => by
    rcases Array.mem_push.1 hm with hm | rfl
    · exact hd.nodes m hm
    · exact h
  unfold addNode
  simp only
  split
  · exact ⟨trivial, hd.rest, hd.ending, hnodes⟩
  · split
    · exact trivial
    · exact ⟨trivial, hd.rest, hd.ending, hnodes⟩

theorem keeps_addCollection {anchor : Option (List Char)} {kind : Kind} {read : Reading Content}
    (hkind : ∀ content, Origin ts kind content) (hread : Gives ts ending (Content.IsFrom ts) read) :
    Keeps ts ending (addCollection anchor kind read) := by
  refine keeps_bind (keeps_addNode ⟨hkind _, isFrom_list _⟩) fun number => ?_
  refine gives_bind hread fun content hcontent => ?_
  refine keeps_bind (keeps_modify fun d hd => ⟨hd.rest, hd.ending, fun m hm => ?_⟩) fun _ =>
    keeps_pure number
  rcases Array.mem_or_eq_of_mem_setIfInBounds hm with hm | rfl
  · exact hd.nodes m hm
  · exact ⟨hkind _, hcontent⟩

theorem keeps_addEmpty : Keeps ts ending addEmpty :=
  keeps_addNode (isFrom_empty (fun h => nomatch h : TagFrom ts none))

theorem keeps_unlessNext {stops : List Token} {read : Reading Nat} (h : Keeps ts ending read) :
    Keeps ts ending (unlessNext stops read) :=
  gives_bind gives_peekToken fun _ _ => gives_ite keeps_addEmpty h

theorem keeps_afterValueSign {read : Reading Nat} (h : Keeps ts ending read) :
    Keeps ts ending (afterValueSign read) :=
  gives_bind gives_peekToken fun _ _ =>
    gives_ite (keeps_bind keeps_takeToken fun _ => h) keeps_addEmpty

/-! ### Properties -/

theorem keeps_expand (t : WrittenTag) : Keeps ts ending t.expand := by
  unfold WrittenTag.expand
  split
  · exact keeps_pure _
  · refine keeps_bind keeps_get fun _ => ?_
    split
    · exact keeps_pure _
    · exact gives_refuse

theorem keeps_readAnchor : Keeps ts ending readAnchor := by
  refine gives_bind gives_peekToken fun _ _ => ?_
  split
  · exact keeps_bind keeps_takeToken fun _ => keeps_pure _
  · exact keeps_pure _

theorem gives_readTag : Gives ts ending (fun tag => tag.isSome = true → HasTag ts) readTag := by
  refine gives_bind gives_peekToken fun s hs => ?_
  split
  · exact keeps_bind keeps_takeToken fun _ => gives_pure fun _ => ⟨_, _, hs⟩
  · exact gives_pure fun h => nomatch h

theorem gives_readProperties : Gives ts ending (fun p => TagFrom ts p.2) readProperties := by
  refine keeps_bind keeps_readAnchor fun anchor => ?_
  split
  · refine gives_bind gives_readTag fun tag htag => ?_
    cases tag with
    | none => exact gives_pure fun h => nomatch h
    | some t =>
      exact keeps_bind (keeps_map some (keeps_expand t)) fun _ => gives_pure fun _ => htag rfl
  · refine gives_bind gives_readTag fun tag htag => ?_
    split
    · exact keeps_bind keeps_readAnchor fun _ =>
        keeps_bind (keeps_expand _) fun _ => gives_pure fun _ => htag rfl
    · exact gives_pure fun h => nomatch h

end Steps

/-! ## §3. Nodes. -/

/-- Reading a node and the parts of collections keeps to the tokens, with so many steps left. -/
structure KeepsNodes (ts : List Token) (ending : Fault) (fuel : Nat) : Prop where
  node : ∀ block unindented, Keeps ts ending (readNode block unindented fuel)
  blockItems : Keeps ts ending (readBlockItems fuel)
  unindented : Keeps ts ending (readUnindented fuel)
  blockEntries : Keeps ts ending (readBlockEntries fuel)
  flowItems : ∀ first, Keeps ts ending (readFlowItems first fuel)
  flowEntries : ∀ first, Keeps ts ending (readFlowEntries first fuel)

section Nodes

variable {ts : List Token} {ending : Fault} {fuel : Nat}

/-- A collection whose content is made of parts. -/
theorem keeps_collection {anchor tag : Option (List Char)} {own : Kind} {α : Type}
    {read : Reading α} {f : α → Content} (htag : TagFrom ts tag) (hown : own.isCollection = true)
    (hread : Keeps ts ending read) (hf : ∀ a, (f a).IsFrom ts) :
    Keeps ts ending (addCollection anchor (collectionKind tag own) (f <$> read)) :=
  keeps_addCollection (fun _ => origin_collectionKind htag hown) <|
    keeps_bind hread fun a => gives_pure (hf a)

theorem keeps_readNode (ih : KeepsNodes ts ending fuel) (block unindented : Bool) :
    Keeps ts ending (readNode block unindented (fuel + 1)) := by
  unfold readNode
  refine gives_bind gives_peekToken fun s _ => ?_
  -- What is not a reference to another node.
  extract_lets proper
  have hproper (u : PUnit) : Keeps ts ending (proper u) := by
    refine gives_bind gives_readProperties fun p htag => ?_
    refine gives_bind gives_peekToken fun t ht => ?_
    simp only
    split
    · exact keeps_bind keeps_takeToken fun _ => keeps_addNode (isFrom_scalar htag ht)
    · exact keeps_bind keeps_takeToken fun _ =>
        keeps_collection htag rfl (ih.flowItems true) isFrom_list
    · exact keeps_bind keeps_takeToken fun _ =>
        keeps_collection htag rfl (ih.flowEntries true) isFrom_map
    · refine gives_ite (keeps_collection htag rfl ih.unindented isFrom_list) ?_
      refine gives_ite (keeps_bind keeps_takeToken fun _ =>
        keeps_collection htag rfl ih.blockItems isFrom_list) ?_
      refine gives_ite (keeps_bind keeps_takeToken fun _ =>
        keeps_collection htag rfl ih.blockEntries isFrom_map) ?_
      exact gives_ite (keeps_addNode (isFrom_empty htag)) gives_refuse
  split
  · -- Another node is referred to.
    refine keeps_bind keeps_takeToken fun _ => keeps_bind keeps_get fun _ => ?_
    split
    · exact keeps_pure _
    · exact keeps_bind gives_refuse hproper
  · exact hproper ⟨⟩

theorem keeps_readBlockItems (ih : KeepsNodes ts ending fuel) :
    Keeps ts ending (readBlockItems (fuel + 1)) := by
  unfold readBlockItems
  refine gives_bind gives_peekToken fun s _ => ?_
  split
  · exact keeps_bind keeps_takeToken fun _ => keeps_bind (keeps_unlessNext (ih.node _ _)) fun _ =>
      keeps_bind ih.blockItems fun _ => keeps_pure _
  · exact keeps_bind keeps_takeToken fun _ => keeps_pure _
  · exact gives_refuse

theorem keeps_readUnindented (ih : KeepsNodes ts ending fuel) :
    Keeps ts ending (readUnindented (fuel + 1)) := by
  unfold readUnindented
  refine gives_bind gives_peekToken fun s _ => ?_
  split
  · exact keeps_bind keeps_takeToken fun _ => keeps_bind (keeps_unlessNext (ih.node _ _)) fun _ =>
      keeps_bind ih.unindented fun _ => keeps_pure _
  · exact keeps_pure _

theorem keeps_readBlockEntries (ih : KeepsNodes ts ending fuel) :
    Keeps ts ending (readBlockEntries (fuel + 1)) := by
  unfold readBlockEntries
  refine gives_bind gives_peekToken fun s _ => ?_
  split
  · refine keeps_bind keeps_takeToken fun _ => ?_
    refine keeps_bind (keeps_unlessNext (ih.node true true)) fun _ => ?_
    refine keeps_bind (keeps_afterValueSign (keeps_unlessNext (ih.node true true))) fun _ => ?_
    exact keeps_bind ih.blockEntries fun _ => keeps_pure _
  · exact keeps_bind keeps_takeToken fun _ => keeps_pure _
  · exact gives_refuse

/-- Parts of a flow collection, with a comma before each but the first. -/
theorem keeps_afterComma {α : Type} {first : Bool} {stop : Token} {read : PUnit → Reading α}
    (h : ∀ u, Keeps ts ending (read u)) :
    Keeps ts ending (peekToken >>= fun t =>
      if (!first && t != stop) = true then expectToken .flowEntry >>= read else read ⟨⟩) :=
  gives_bind gives_peekToken fun _ _ => gives_ite (keeps_bind (keeps_expectToken _) h) (h _)

/-- A key in a flow collection and the value after it. -/
theorem keeps_flowEntry {α : Type} {stops stops' : List Token} {f : Nat → Nat → Reading α}
    {Q : α → Prop} (ih : KeepsNodes ts ending fuel)
    (hf : ∀ key value, Gives ts ending Q (f key value)) :
    Gives ts ending Q (unlessNext stops (readNode false false fuel) >>= fun key =>
      afterValueSign (unlessNext stops' (readNode false false fuel)) >>= fun value => f key value) :=
  keeps_bind (keeps_unlessNext (ih.node _ _)) fun key =>
    keeps_bind (keeps_afterValueSign (keeps_unlessNext (ih.node _ _))) fun value => hf key value

theorem keeps_readFlowItems (ih : KeepsNodes ts ending fuel) (first : Bool) :
    Keeps ts ending (readFlowItems first (fuel + 1)) := by
  unfold readFlowItems
  refine keeps_afterComma fun _ => gives_bind gives_peekToken fun s _ => ?_
  split
  · exact keeps_bind keeps_takeToken fun _ => keeps_pure _
  · refine keeps_bind keeps_takeToken fun _ => keeps_bind ?_ fun _ =>
      keeps_bind (ih.flowItems false) fun _ => keeps_pure _
    exact keeps_addCollection (fun _ => .collection rfl)
      (keeps_flowEntry ih fun _ _ => gives_pure (isFrom_map _))
  · exact keeps_bind (ih.node _ _) fun _ => keeps_bind (ih.flowItems false) fun _ => keeps_pure _

theorem keeps_readFlowEntries (ih : KeepsNodes ts ending fuel) (first : Bool) :
    Keeps ts ending (readFlowEntries first (fuel + 1)) := by
  unfold readFlowEntries
  refine keeps_afterComma fun _ => gives_bind gives_peekToken fun s _ => ?_
  split
  · exact keeps_bind keeps_takeToken fun _ => keeps_pure _
  · exact keeps_bind keeps_takeToken fun _ => keeps_flowEntry ih fun _ _ =>
      keeps_bind (ih.flowEntries false) fun _ => keeps_pure _
  · exact keeps_bind (ih.node _ _) fun _ => keeps_bind keeps_addEmpty fun _ =>
      keeps_bind (ih.flowEntries false) fun _ => keeps_pure _

/-- Reading nodes keeps to the tokens, however deeply the nodes are nested. -/
theorem keepsNodes (ts : List Token) (ending : Fault) (fuel : Nat) : KeepsNodes ts ending fuel := by
  -- All productions use each other with one step less.
  induction fuel with
  | zero =>
    exact {
      node := fun _ _ => gives_refuse
      blockItems := gives_refuse
      unindented := gives_refuse
      blockEntries := gives_refuse
      flowItems := fun _ => gives_refuse
      flowEntries := fun _ => gives_refuse }
  | succ fuel ih =>
    exact {
      node := keeps_readNode ih
      blockItems := keeps_readBlockItems ih
      unindented := keeps_readUnindented ih
      blockEntries := keeps_readBlockEntries ih
      flowItems := keeps_readFlowItems ih
      flowEntries := keeps_readFlowEntries ih }

end Nodes

/-! ## §4. Documents. -/

section Documents

variable {ts : List Token} {ending : Fault}

/-- What the handles of tags stand for says nothing of the nodes. -/
theorem keeps_setHandles (f : Draft → List (List Char × List Char)) :
    Keeps ts ending (modify fun d => { d with handles := f d } : Reading Unit) :=
  keeps_modify fun _ hd => ⟨hd.rest, hd.ending, hd.nodes⟩

theorem keeps_readDirectives (versioned : Bool) (fuel : Nat) :
    Keeps ts ending (readDirectives versioned fuel) := by
  induction fuel generalizing versioned with
  | zero => exact gives_refuse
  | succ fuel ih =>
    unfold readDirectives
    refine gives_bind gives_peekToken fun s _ => ?_
    split
    · refine keeps_bind keeps_takeToken fun _ => ?_
      split
      · exact gives_ite gives_refuse (ih true)
      · have hnew (name beginning : List Char) : Keeps ts ending
            ((modify fun s => { s with handles := (name, beginning) :: s.handles } : Reading Unit) >>=
              fun _ => readDirectives versioned fuel) :=
          keeps_bind (keeps_setHandles _) fun _ => ih versioned
        exact keeps_bind keeps_get fun _ =>
          gives_ite (keeps_bind gives_refuse fun _ => hnew _ _) (hnew _ _)
      · exact ih versioned
    · exact keeps_pure _

theorem keeps_dropDocumentEnds (fuel : Nat) : Keeps ts ending (dropDocumentEnds fuel) := by
  induction fuel with
  | zero => exact gives_refuse
  | succ fuel ih =>
    unfold dropDocumentEnds
    exact gives_bind gives_peekToken fun _ _ =>
      gives_ite (keeps_bind keeps_takeToken fun _ => ih) (keeps_pure _)

theorem keeps_readStream (fuel : Nat) : Keeps ts ending (readStream fuel) := by
  unfold readStream
  refine gives_bind gives_peekToken fun s _ => gives_ite (keeps_pure _) ?_
  -- What follows the root is read in the same way for each form of a document.
  extract_lets ending'
  have hending (root : Nat) : Keeps ts ending (ending' root) := by
    refine keeps_bind (keeps_dropDocumentEnds fuel) fun _ => ?_
    refine gives_bind gives_peekToken fun _ _ => gives_ite (keeps_pure _) ?_
    refine keeps_bind (keeps_setHandles _) fun _ => keeps_bind (keeps_readDirectives _ _) fun _ => ?_
    exact gives_bind gives_peekToken fun _ _ => gives_refuse
  have hroot : Keeps ts ending (readNode true false fuel >>= ending') :=
    keeps_bind ((keepsNodes ts ending fuel).node _ _) hending
  refine gives_ite ?_ (keeps_bind (keeps_setHandles _) fun _ => hroot)
  refine keeps_bind (keeps_readDirectives _ _) fun _ => keeps_bind (keeps_setHandles _) fun _ => ?_
  refine keeps_bind (keeps_expectToken _) fun _ => gives_bind gives_peekToken fun _ _ => ?_
  exact gives_ite (keeps_bind keeps_addEmpty hending) hroot

end Documents

/-! ## §5. Graphs. -/

/-- All nodes of a graph come from the tokens. -/
def Graph.IsFrom (ts : List Token) (g : Graph) : Prop := ∀ node ∈ g, node.IsFrom ts

/-- **The nodes of the graph of a text come from its tokens**, and a defect that there is in reading
it is one of the tokens. -/
theorem Graph.read_within (cs : List Char) :
    Within (fun d => (tokens cs).2 = some (.defect d)) (fun p => p.1.IsFrom (tokens cs).1)
      (Graph.read cs) := by
  have hstart : Draft.IsFrom (tokens cs).1 ((tokens cs).2.getD .malformed)
      ⟨(tokens cs).1, (tokens cs).2.getD .malformed, [], [], #[]⟩ :=
    ⟨fun _ h => h, rfl, fun _ h => absurd h (Array.not_mem_empty _)⟩
  have hread := keeps_readStream (3 * (tokens cs).1.length + 4) _ hstart
  refine within_bind (within_mono (fun d hd => ?_) (fun _ h => h) hread) fun p hp => hp.2.nodes
  -- What a draft ends with is the fault of the tokens, and a refusal without one.
  cases hfault : (tokens cs).2 with
  | none => simp [hfault] at hd
  | some fault => rw [← hd, hfault, Option.getD_some]

end QuasiGrammar.Yaml
