import QuasiGrammar.Yaml.Kind
import QuasiGrammar.Yaml.Token

/-
  QuasiGrammar.Yaml.Graph
  ───────────────────────
  The node graph that the tokens of a YAML text describe.  Nodes are numbered;
  a node that has been given an anchor can be referred to again, also from
  within itself, so the graph may share nodes and may have cycles.

  A stream holds one document at most.  Each function below reads one
  production of the grammar of tokens; all of them take a number of steps that
  the number of tokens bounds.
-/

namespace QuasiGrammar.Yaml

/-! ## §1. Graphs. -/

/-- What a node holds; other nodes are given by their numbers. -/
inductive Content where
  | scalar (text : List Char)
  | list (items : List Nat)
  | map (entries : List (Nat × Nat))
  deriving DecidableEq, Repr, Inhabited

/-- A node. -/
structure Node where
  kind : Kind
  content : Content
  deriving DecidableEq, Repr, Inhabited

/-- Nodes by number. -/
abbrev Graph := Array Node

/-- The number of entries of all maps. -/
def Graph.entryCount (g : Graph) : Nat :=
  g.foldl (fun n node => match node.content with
    | .map entries => n + entries.length
    | _ => n) 0

/-! ## §2. Reading state. -/

/-- What is known in the middle of a document: the tokens to come and what to say when there are
no more of them, what the handles of tags stand for, the anchored nodes, and the nodes so far. -/
structure Draft where
  rest : List Token
  ending : Fault
  handles : List (List Char × List Char)
  anchors : List (List Char × Nat)
  graph : Graph

/-- A step of reading a document. -/
abbrev Reading := StateT Draft Step

/-- Refuses the document. -/
def Reading.refuse {α : Type} : Reading α := fun _ => Yaml.refuse

/-- The next token, which is not taken. -/
def peekToken : Reading Token := fun d =>
  match d.rest with
  | t :: _ => .ok (t, d)
  | [] => .error d.ending

/-- Takes the next token. -/
def takeToken : Reading Unit := fun d => .ok ((), { d with rest := d.rest.drop 1 })

/-- Takes the next token, which must be the given one. -/
def expectToken (t : Token) : Reading Unit := do
  if (← peekToken) = t then takeToken else .refuse

/-- Adds a node, with an anchor that is not in use. -/
def addNode (anchor : Option (List Char)) (node : Node) : Reading Nat := fun d =>
  let number := d.graph.size
  let d := { d with graph := d.graph.push node }
  match anchor with
  | none => .ok (number, d)
  | some name =>
      if (d.anchors.lookup name).isSome then Yaml.refuse
      else .ok (number, { d with anchors := (name, number) :: d.anchors })

/-- Adds a collection and then fills it. -/
def addCollection (anchor : Option (List Char)) (kind : Kind) (read : Reading Content) :
    Reading Nat := do
  let number ← addNode anchor ⟨kind, .list []⟩
  let content ← read
  modify fun d => { d with graph := d.graph.setIfInBounds number ⟨kind, content⟩ }
  pure number

/-- Adds a scalar without a text. -/
def addEmpty : Reading Nat := addNode none ⟨Kind.ofPlain [], .scalar []⟩

/-- An empty scalar if one of some tokens comes next, and else what a step reads. -/
def unlessNext (stops : List Token) (read : Reading Nat) : Reading Nat := do
  if stops.contains (← peekToken) then addEmpty else read

/-- What a step reads after the sign of a value, and an empty scalar without that sign. -/
def afterValueSign (read : Reading Nat) : Reading Nat := do
  if (← peekToken) = .value then
    takeToken
    read
  else addEmpty

/-! ## §3. Properties of nodes. -/

/-- A tag as it is written: the handle that it begins with, if it has one, and the rest. -/
structure WrittenTag where
  handle : Option (List Char)
  suffix : List Char
  deriving DecidableEq, Repr

/-- The tag that a written one stands for. -/
def WrittenTag.expand (t : WrittenTag) : Reading (List Char) := do
  match t.handle with
  | none => pure t.suffix
  | some h =>
      match (← get).handles.lookup h with
      | some beginning => pure (beginning ++ t.suffix)
      | none => .refuse

/-- An anchor, if one comes next. -/
def readAnchor : Reading (Option (List Char)) := do
  match ← peekToken with
  | .anchor name =>
      takeToken
      pure (some name)
  | _ => pure none

/-- A tag, if one comes next. -/
def readTag : Reading (Option WrittenTag) := do
  match ← peekToken with
  | .tag handle suffix =>
      takeToken
      pure (some ⟨handle, suffix⟩)
  | _ => pure none

/-- The anchor and the tag of a node, in either order.  What the tag stands for is looked up after
both have been read. -/
def readProperties : Reading (Option (List Char) × Option (List Char)) := do
  match ← readAnchor with
  | some name => pure (some name, ← (← readTag).mapM (·.expand))
  | none =>
      match ← readTag with
      | some tag =>
          let anchor ← readAnchor
          pure (anchor, some (← tag.expand))
      | none => pure (none, none)

/-- The tag that says nothing but that the node is to be read as if it were plain. -/
def plainTag : List Char := ['!']

/-- The kind of a scalar. -/
def scalarKind (tag : Option (List Char)) (text : List Char) (plain : Bool) : Kind :=
  match tag with
  | none => if plain then .ofPlain text else .text
  | some t => if t = plainTag then .ofPlain text else .ofTag t

/-- The kind of a collection that has a kind of its own without a tag. -/
def collectionKind (tag : Option (List Char)) (own : Kind) : Kind :=
  match tag with
  | none => own
  | some t => if t = plainTag then own else .ofTag t

/-! ## §4. Nodes. -/

mutual

/-- A node.  Block collections are read only where they may stand, and a list without indentation
only in a map. -/
def readNode (block unindented : Bool) : Nat → Reading Nat
  | 0 => .refuse
  | fuel + 1 => do
      if let .alias name := ← peekToken then
        takeToken
        match (← get).anchors.lookup name with
        | some number => return number
        | none => .refuse
      let (anchor, tag) ← readProperties
      let collection (own : Kind) (read : Reading Content) : Reading Nat :=
        addCollection anchor (collectionKind tag own) read
      match ← peekToken with
      | .scalar text plain =>
          takeToken
          addNode anchor ⟨scalarKind tag text plain, .scalar text⟩
      | .flowSequenceStart =>
          takeToken
          collection .list (.list <$> readFlowItems true fuel)
      | .flowMappingStart =>
          takeToken
          collection .map (.map <$> readFlowEntries true fuel)
      | t =>
          if unindented && t = .blockEntry then
            collection .list (.list <$> readUnindented fuel)
          else if block && t = .blockSequenceStart then
            takeToken
            collection .list (.list <$> readBlockItems fuel)
          else if block && t = .blockMappingStart then
            takeToken
            collection .map (.map <$> readBlockEntries fuel)
          else if anchor.isSome || tag.isSome then
            addNode anchor ⟨scalarKind tag [] true, .scalar []⟩
          else .refuse

/-- The items of a block sequence up to its end. -/
def readBlockItems : Nat → Reading (List Nat)
  | 0 => .refuse
  | fuel + 1 => do
      match ← peekToken with
      | .blockEntry =>
          takeToken
          let item ← unlessNext [.blockEntry, .blockEnd] (readNode true false fuel)
          let items ← readBlockItems fuel
          pure (item :: items)
      | .blockEnd =>
          takeToken
          pure []
      | _ => .refuse

/-- The items of a list that is not indented. -/
def readUnindented : Nat → Reading (List Nat)
  | 0 => .refuse
  | fuel + 1 => do
      match ← peekToken with
      | .blockEntry =>
          takeToken
          let item ← unlessNext [.blockEntry, .key, .value, .blockEnd] (readNode true false fuel)
          let items ← readUnindented fuel
          pure (item :: items)
      | _ => pure []

/-- The entries of a block mapping up to its end. -/
def readBlockEntries : Nat → Reading (List (Nat × Nat))
  | 0 => .refuse
  | fuel + 1 => do
      match ← peekToken with
      | .key =>
          takeToken
          let part := unlessNext [.key, .value, .blockEnd] (readNode true true fuel)
          let key ← part
          let value ← afterValueSign part
          let entries ← readBlockEntries fuel
          pure ((key, value) :: entries)
      | .blockEnd =>
          takeToken
          pure []
      | _ => .refuse

/-- The items of a flow sequence up to its end, with a comma before each but the first.  A key
makes a map of one entry. -/
def readFlowItems (first : Bool) : Nat → Reading (List Nat)
  | 0 => .refuse
  | fuel + 1 => do
      if !first && (← peekToken) != .flowSequenceEnd then expectToken .flowEntry
      match ← peekToken with
      | .flowSequenceEnd =>
          takeToken
          pure []
      | .key =>
          takeToken
          let item ← addCollection none .map do
            let key ← unlessNext [.value, .flowEntry, .flowSequenceEnd] (readNode false false fuel)
            let value ← afterValueSign
              (unlessNext [.flowEntry, .flowSequenceEnd] (readNode false false fuel))
            pure (.map [(key, value)])
          let items ← readFlowItems false fuel
          pure (item :: items)
      | _ =>
          let item ← readNode false false fuel
          let items ← readFlowItems false fuel
          pure (item :: items)

/-- The entries of a flow mapping up to its end, with a comma before each but the first.  A node
alone is a key without a value. -/
def readFlowEntries (first : Bool) : Nat → Reading (List (Nat × Nat))
  | 0 => .refuse
  | fuel + 1 => do
      if !first && (← peekToken) != .flowMappingEnd then expectToken .flowEntry
      match ← peekToken with
      | .flowMappingEnd =>
          takeToken
          pure []
      | .key =>
          takeToken
          let key ← unlessNext [.value, .flowEntry, .flowMappingEnd] (readNode false false fuel)
          let value ← afterValueSign
            (unlessNext [.flowEntry, .flowMappingEnd] (readNode false false fuel))
          let entries ← readFlowEntries false fuel
          pure ((key, value) :: entries)
      | _ =>
          let key ← readNode false false fuel
          let value ← addEmpty
          let entries ← readFlowEntries false fuel
          pure ((key, value) :: entries)

end

/-! ## §5. Documents. -/

/-- The handles that every document has. -/
def defaultHandles : List (List Char × List Char) :=
  [(['!'], plainTag), (['!', '!'], tagNamespace)]

/-- The directives before a document.  The version may be given once and must begin with one; each
handle may be given once. -/
def readDirectives (versioned : Bool) : Nat → Reading Unit
  | 0 => .refuse
  | fuel + 1 => do
      match ← peekToken with
      | .directive d =>
          takeToken
          match d with
          | .version major =>
              if versioned || major ≠ 1 then .refuse else readDirectives true fuel
          | .handle name beginning =>
              if ((← get).handles.lookup name).isSome then .refuse
              modify fun s => { s with handles := (name, beginning) :: s.handles }
              readDirectives versioned fuel
          | .other => readDirectives versioned fuel
      | _ => pure ()

/-- The tokens that end a document without content. -/
def endsDocument : Token → Bool
  | .directive _ | .documentStart | .documentEnd | .streamEnd => true
  | _ => false

/-- Takes the signs at the end of documents. -/
def dropDocumentEnds : Nat → Reading Unit
  | 0 => .refuse
  | fuel + 1 => do
      if (← peekToken) = .documentEnd then
        takeToken
        dropDocumentEnds fuel

/-- The number of the root of the only document, if there is a document.  Directives after it are
read before they are refused, whether another document follows or none. -/
def readStream (fuel : Nat) : Reading (Option Nat) := do
  let first ← peekToken
  if first = .streamEnd then return none
  let root ←
    if endsDocument first && first ≠ .documentEnd then
      readDirectives false fuel
      modify fun d => { d with handles := d.handles ++ defaultHandles }
      expectToken .documentStart
      if endsDocument (← peekToken) then addEmpty else readNode true false fuel
    else
      modify fun d => { d with handles := defaultHandles }
      readNode true false fuel
  dropDocumentEnds fuel
  if (← peekToken) = .streamEnd then pure (some root)
  else
    modify fun d => { d with handles := [] }
    readDirectives false fuel
    let _ ← peekToken
    .refuse

/-- The graph of a text and the number of its root, if there is a document. -/
def Graph.read (cs : List Char) : Step (Graph × Option Nat) := do
  let (ts, fault) := tokens cs
  let (root, d) ← readStream (3 * ts.length + 4) ⟨ts, fault.getD .malformed, [], [], #[]⟩
  pure (d.graph, root)

end QuasiGrammar.Yaml
