import QuasiGrammar.Value.Members
import QuasiGrammar.Yaml.Graph
import QuasiGrammar.Yaml.ScalarValue

/-
  QuasiGrammar.Yaml.Reader
  ────────────────────────
  The value of a YAML text.  The node graph is checked first: level by level
  from the root, scalars are read and merge keys are replaced by the entries
  that they take over.  The first fault in that order is the fault of the text.
  Then the graph is unfolded: a node that leads into no cycle has one value,
  which is put together once, and elsewhere a list or map that comes up inside
  itself is cut off there.
-/

namespace QuasiGrammar.Yaml

open Text

namespace Graph

/-! ## §1. Nodes. -/

/-- The kind of a node. -/
def kind (g : Graph) (number : Nat) : Kind := (g[number]?.map Node.kind).getD .unknown

/-- What a node holds. -/
def content (g : Graph) (number : Nat) : Content := (g[number]?.map Node.content).getD (.list [])

/-- Gives a node other content. -/
def setContent (g : Graph) (number : Nat) (content : Content) : Graph :=
  g.modify number fun node => { node with content := content }

/-- Gives a node another kind. -/
def setKind (g : Graph) (number : Nat) (kind : Kind) : Graph :=
  g.modify number fun node => { node with kind := kind }

/-- The entries of a map. -/
def entries? (g : Graph) (number : Nat) : Option (List (Nat × Nat)) :=
  match g.content number with
  | .map entries => some entries
  | _ => none

/-! ## §2. Merge keys. -/

/-- The entries that a merge key takes over: those of a map, or those of the maps of a list, the
last map first.  `flatten` replaces the merge keys of these maps. -/
def takeOver (flatten : Graph → Nat → Step Graph) (value : Nat) (g : Graph) :
    Step (List (Nat × Nat) × Graph) :=
  match g.content value with
  | .map _ => do
      let g ← flatten g value
      pure ((g.entries? value).getD [], g)
  | .list items =>
      items.foldlM (fun (taken, g) item => do
        let g ← flatten g item
        pure ((g.entries? item).getD [] ++ taken, g)) ([], g)
  | .scalar _ => refuse

/-- Goes through the entries of a map: those that were taken over, those that were kept, and those
to come.  If the map was taken over by itself, its merge keys are gone already. -/
def flattenFrom (flatten : Graph → Nat → Step Graph) (number : Nat) :
    List (Nat × Nat) → List (Nat × Nat) → List (Nat × Nat) → Graph → Step Graph
  | merged, kept, [], g => .ok (g.setContent number (.map (merged ++ kept)))
  | merged, kept, (key, value) :: rest, g =>
      if g.kind key = .merge then do
        let left := kept ++ rest
        let (taken, g) ← takeOver flatten value (g.setContent number (.map left))
        let now := (g.entries? number).getD []
        if now = left then flattenFrom flatten number (merged ++ taken) kept rest g
        else pure (g.setContent number (.map (merged ++ taken ++ now)))
      else
        let g := if g.kind key = .value then g.setKind key .text else g
        flattenFrom flatten number merged (kept ++ [(key, value)]) rest g

/-- Replaces the merge keys of a map by the entries that they take over, which come before its own
entries.  A key that stands for the value of the map becomes a text. -/
def flatten : Nat → Graph → Nat → Step Graph
  | 0, _, _ => refuse
  | fuel + 1, g, number =>
      match g.entries? number with
      | none => refuse
      | some entries => flattenFrom (flatten fuel) number [] [] entries g

/-! ## §3. Checking. -/

/-- The text of a scalar, or of the value that stands for a map.  A map that stands for itself in the
end, with no more than so many maps on the way, is looked into until the stack is exhausted. -/
def scalarText : Nat → Graph → Nat → Step (List Char)
  | 0, _, _ => .error (.defect .stackExhausted)
  | fuel + 1, g, number =>
      match g.content number with
      | .scalar text => .ok text
      | .list _ => refuse
      | .map entries =>
          match entries.find? fun e => g.kind e.1 = .value with
          | some e => scalarText fuel g e.2
          | none => refuse

end Graph

/-- Whether a kind is that of collections. -/
def Kind.isCollection : Kind → Bool
  | .list | .map | .orderedMap | .pairs | .set => true
  | _ => false

/-- The state of a check: the graph, the values that are known, the nodes that have been met, and
the collections that are still to be gone through. -/
structure Survey where
  graph : Graph
  values : Array (Option Value)
  met : Array Bool
  waiting : List Nat

namespace Survey

/-- Before a check. -/
def start (g : Graph) : Survey := ⟨g, .replicate g.size none, .replicate g.size false, []⟩

/-- The value of a node, if it is known. -/
def value? (s : Survey) (number : Nat) : Option Value := (s.values[number]?).join

/-- Whether a node has been met. -/
def hasMet (s : Survey) (number : Nat) : Bool := s.met[number]?.getD false

/-- Marks a node as met. -/
def mark (s : Survey) (number : Nat) : Survey :=
  { s with met := s.met.setIfInBounds number true }

/-- Makes the value of a node known. -/
def learn (s : Survey) (number : Nat) (v : Value) : Survey :=
  { s with values := s.values.setIfInBounds number (some v) }

/-- Meets a node: a scalar is read, a collection waits for its turn. -/
def meet (s : Survey) (number : Nat) : Step Survey :=
  let kind := s.graph.kind number
  if s.hasMet number then .ok s
  else if kind.isCollection then
    .ok { s.mark number with waiting := s.waiting ++ [number] }
  else if kind.hasScalars then do
    let text ← s.graph.scalarText (s.graph.size + 1) number
    if kind = .timestamp && (s.graph.entries? number).isSome then
      .error (.defect .mapForDate)
    else
      let value ← scalarValue number kind text
      pure ((s.mark number).learn number value)
  else refuse

/-- Meets a key, which must be a scalar. -/
def meetKey (s : Survey) (number : Nat) : Step Survey := do
  let s ← s.meet number
  if (s.graph.kind number).isCollection then refuse else pure s

/-- Meets the keys and values of entries. -/
def meetEntries (s : Survey) (entries : List (Nat × Nat)) (meetFirst : Survey → Nat → Step Survey) :
    Step Survey :=
  entries.foldlM (fun s e => do (← meetFirst s e.1).meet e.2) s

/-- Goes through the nodes of a collection. -/
def visit (s : Survey) (number : Nat) : Step Survey :=
  let g := s.graph
  match g.kind number, g.content number with
  | .list, .list items => items.foldlM meet s
  | .orderedMap, .list items | .pairs, .list items =>
      items.foldlM (fun s item =>
        match s.graph.entries? item with
        | some [e] => s.meetEntries [e] meet
        | _ => refuse) s
  | .map, .map _ | .set, .map _ => do
      let g ← g.flatten (g.entryCount + 2) number
      { s with graph := g }.meetEntries ((g.entries? number).getD []) meetKey
  | _, _ => refuse

/-- Goes through the waiting collections, at most so many. -/
def run : Nat → Survey → Step Survey
  | 0, s => .ok s
  | fuel + 1, s =>
      match s.waiting with
      | [] => .ok s
      | number :: rest => do run fuel (← { s with waiting := rest }.visit number)

end Survey

/-! ## §4. Unfolding. -/

namespace Graph

/-- The entry of a map that has one entry. -/
def onlyEntry? (g : Graph) (number : Nat) : Option (Nat × Nat) :=
  match g.entries? number with
  | some [e] => some e
  | _ => none

/-- The nodes that the value of a node is put together from. -/
def parts (g : Graph) (number : Nat) : List Nat :=
  match g.kind number, g.content number with
  | .list, .list items => items
  | .set, .map entries => entries.map (·.1)
  | _, .map entries => entries.flatMap fun e => [e.1, e.2]
  | _, .list items => (items.filterMap g.onlyEntry?).flatMap fun e => [e.1, e.2]
  | _, .scalar _ => []

/-- The value of a collection, put together from the values of its parts. -/
def assemble (g : Graph) (inner : Nat → Value) (number : Nat) : Value :=
  match g.kind number, g.content number with
  | .list, .list items => .list (items.map inner)
  | .set, .map entries =>
      .set (Value.listed (entries.foldl (fun vs e => Value.addMember (inner e.1) vs) []))
  | _, .map entries =>
      .map (entries.foldl (fun vs e => Value.setEntry (inner e.1) (inner e.2) vs) [])
  | _, .list items =>
      .list ((items.filterMap g.onlyEntry?).map fun e => .pair (inner e.1) (inner e.2))
  | _, .scalar _ => .null

end Graph

namespace Survey

/-- Learns the value of a node and of those below it, except for nodes that lead into a cycle. -/
def settle : Nat → Survey → Nat → Survey
  | 0, s, _ => s
  | fuel + 1, s, number =>
      if s.hasMet number || (s.value? number).isSome then s
      else
        let parts := s.graph.parts number
        let s := parts.foldl (settle fuel) (s.mark number)
        if parts.all fun p => (s.value? p).isSome then
          s.learn number (s.graph.assemble (fun p => (s.value? p).getD .null) number)
        else s

/-- The depth from which on collections inside themselves are looked for. -/
def cutDepth : Nat := 2

/-- The value of a node, at a depth and inside some collections. -/
def unfold (s : Survey) : Nat → Nat → List Nat → Nat → Value
  | 0, _, _, _ => .null
  | fuel + 1, depth, path, number =>
      match s.value? number with
      | some v => v
      | none =>
          if path.contains number then .again (s.graph.kind number != .map)
          else
            let path := if cutDepth ≤ depth then number :: path else path
            s.graph.assemble (s.unfold fuel (depth + 1) path) number

end Survey

/-- The value of the root of a graph. -/
def Graph.value (g : Graph) (root : Nat) : Step Value := do
  let s ← (Survey.start g).meet root
  let s ← s.run (g.size + 1)
  let s := { s with met := .replicate g.size false }.settle (g.size + 1) root
  pure (s.unfold (g.size + Survey.cutDepth + 2) 0 [] root)

/-- The value of a text; a text without a document is null. -/
def read (cs : List Char) : Step Value := do
  if !cs.all isPrintable then refuse
  else
    match ← Graph.read cs with
    | (_, none) => pure .null
    | (g, some root) => g.value root

end QuasiGrammar.Yaml
