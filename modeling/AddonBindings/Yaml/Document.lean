import AddonBindings.Yaml.Composition
import AddonBindings.Yaml.ScalarValue
import AddonBindings.Yaml.Tokens

/-!
Contract: the value of a YAML text.

Owns:
- the types of nodes, by their tags;
- merging of mappings into mappings;
- the order in which nodes get their values, which decides the fault that is
  reported;
- values of collections that contain themselves.

Does not own: the values of scalars, which are in `AddonBindings.Yaml.ScalarValue`.
-/

namespace AddonBindings.Yaml

inductive CollectionType where
  | sequence
  | mapping
  | set
  /-- A sequence of single entries. -/
  | pairs
deriving DecidableEq, Repr

inductive NodeType where
  | scalar (type : ScalarType)
  | collection (type : CollectionType)
deriving DecidableEq, Repr

def typeNames : List (String × NodeType) :=
  [ ("null", .scalar .null), ("bool", .scalar .bool), ("int", .scalar .int),
    ("float", .scalar .float), ("binary", .scalar .bytes), ("timestamp", .scalar .timestamp),
    ("str", .scalar .text), ("omap", .collection .pairs), ("pairs", .collection .pairs),
    ("set", .collection .set), ("seq", .collection .sequence), ("map", .collection .mapping) ]

def typeOfTag? (tag : String) : Option NodeType :=
  typeNames.findSome? fun (name, type) => if tag = ownTag name then some type else none

/-- The state of giving values to nodes. -/
structure Valuation where
  graph : Graph
  /-- The values of scalars. -/
  scalars : List (Nat × Datum)
  /-- The collections that have been reached, but not looked into, in order. -/
  waiting : List Nat
  /-- The nodes that have been reached. -/
  reached : List Nat
deriving Repr

/-- A step of giving values to nodes. -/
abbrev Evaluate (α : Type) := StateT Valuation (Except Fault) α

namespace Evaluate

def graph : Evaluate Graph := return (← get).graph

def changeGraph (change : Graph → Graph) : Evaluate Unit :=
  modify fun state => { state with graph := change state.graph }

/-- The text of a scalar.  A mapping stands for the value under its value key. -/
def scalarText (graph : Graph) : Nat → Nat → Except Fault String
  | 0, _ => .error .malformed
  | depth + 1, number =>
      match graph[number]? with
      | some ⟨_, .scalar text⟩ => .ok text
      | some ⟨_, .mapping entries⟩ =>
          match entries.find? fun (key, _) => graph.tagOf key = ownTag "value" with
          | some (_, value) => scalarText graph depth value
          | none => .error .malformed
      | _ => .error .malformed

/-- The value of a scalar.  A date is read from the text of the node itself, which a mapping
does not have. -/
def scalarValue (graph : Graph) (type : ScalarType) (number : Nat) : Except Fault Datum := do
  let text ← scalarText graph (graph.size + 1) number
  match type, graph[number]? with
  | .timestamp, some ⟨_, .mapping _⟩ => .error (.scalar .noText)
  | _, _ => type.valueOf text

/-- Reach a node: a scalar gets its value at once, a collection waits. -/
def reach (number : Nat) : Evaluate Unit := do
  let state ← get
  if number ∈ state.reached then return ()
  else
    match typeOfTag? (state.graph.tagOf number) with
    | none => throw .malformed
    | some (.collection _) =>
        set { state with
          waiting := state.waiting ++ [number]
          reached := number :: state.reached }
    | some (.scalar type) =>
        let value ← scalarValue state.graph type number
        set { state with
          scalars := (number, value) :: state.scalars
          reached := number :: state.reached }

mutual

/-- The entries of a mapping from position `index` on, with the ones that are
merged into it taken out; the result is the entries to be put in front. -/
def takeMerged (number index : Nat) : Nat → Evaluate (List (Nat × Nat))
  | 0 => return []
  | bound + 1 => do
      let graph ← graph
      let entries := (graph.entriesOf? number).getD []
      match entries[index]? with
      | none => return []
      | some (key, value) =>
          if graph.tagOf key = ownTag "merge" then
            changeGraph (·.setContent number (.mapping (entries.eraseIdx index)))
            let front ← mergedFrom value bound
            return front ++ (← takeMerged number index bound)
          else
            if graph.tagOf key = ownTag "value" then changeGraph (·.setTag key (ownTag "str"))
            takeMerged number (index + 1) bound

/-- The entries that a value under a merge key stands for: those of a mapping, or
those of the mappings in a sequence, the last one first. -/
def mergedFrom (number : Nat) : Nat → Evaluate (List (Nat × Nat))
  | 0 => return []
  | bound + 1 => do
      match (← graph)[number]? with
      | some ⟨_, .mapping _⟩ =>
          flatten number bound
          return ((← graph).entriesOf? number).getD []
      | some ⟨_, .sequence items⟩ => mergedFromAll items bound
      | _ => throw .malformed

/-- The entries of several mappings, the last one first. -/
def mergedFromAll (numbers : List Nat) : Nat → Evaluate (List (Nat × Nat))
  | 0 => return []
  | bound + 1 => do
      match numbers with
      | [] => return []
      | number :: others =>
          match (← graph).entriesOf? number with
          | none => throw .malformed
          | some _ =>
              flatten number bound
              let entries := ((← graph).entriesOf? number).getD []
              return (← mergedFromAll others bound) ++ entries

/-- Put the entries that are merged into a mapping in front of its own. -/
def flatten (number : Nat) : Nat → Evaluate Unit
  | 0 => return ()
  | bound + 1 => do
      let merged ← takeMerged number 0 bound
      if !merged.isEmpty then
        changeGraph fun graph =>
          graph.setContent number (.mapping (merged ++ (graph.entriesOf? number).getD []))

end

/-- Reach the keys and values of entries.  A key may be no collection. -/
def reachEntries (entries : List (Nat × Nat)) : Evaluate Unit :=
  entries.forM fun (key, value) => do
    reach key
    match typeOfTag? ((← graph).tagOf key) with
    | some (.collection _) => throw .malformed
    | _ => reach value

/-- Reach the only entry of an item in a sequence of single entries. -/
def reachPair (item : Nat) : Evaluate Unit := do
  match (← graph).entriesOf? item with
  | some [(key, value)] => do
      reach key
      reach value
  | _ => throw .malformed

def lookInto (number : Nat) : Evaluate Unit := do
  let before ← graph
  match typeOfTag? (before.tagOf number), before[number]? with
  | some (.collection .sequence), some ⟨_, .sequence items⟩ => items.forM reach
  | some (.collection .pairs), some ⟨_, .sequence items⟩ => items.forM reachPair
  | some (.collection .mapping), some ⟨_, .mapping _⟩
  | some (.collection .set), some ⟨_, .mapping _⟩ => do
      let links := before.foldl (fun count node =>
        match node.content with
        | .scalar _ => count + 1
        | .sequence items => count + items.length + 1
        | .mapping entries => count + entries.length + 1) 0
      flatten number (4 * (links + 1))
      reachEntries (((← graph).entriesOf? number).getD [])
  | _, _ => throw .malformed

/-- Look into the waiting collections, first come first served, at most `count` of
them. -/
def lookIntoAll : Nat → Evaluate Unit
  | 0 => return ()
  | count + 1 => do
      let state ← get
      match state.waiting with
      | [] => return ()
      | number :: others =>
          set { state with waiting := others }
          lookInto number
          lookIntoAll count

/-- Give values to everything that can be reached from the root. -/
def all (root : Nat) : Evaluate Unit := do
  reach root
  lookIntoAll ((← graph).size + 1)

end Evaluate

namespace Valuation

/-- The value of a node inside the collections `around`; a collection among them is
only named.  Nodes are nested at most `depth` deep. -/
def valueOf (state : Valuation) (around : List Nat) : Nat → Nat → Datum
  | 0, _ => .null
  | depth + 1, number =>
      let inner := valueOf state (number :: around) depth
      let entries := (state.graph.entriesOf? number).getD []
      let items := (state.graph.itemsOf? number).getD []
      match typeOfTag? (state.graph.tagOf number) with
      | some (.collection .mapping) =>
          if number ∈ around then .enclosingMapping
          else
            .mapping (entries.foldl
              (fun known (key, value) => Datum.putEntry known (inner key) (inner value)) [])
      | some (.collection .set) =>
          .set ((entries.foldl
            (fun known (key, _) => Datum.putEntry known (inner key) .null) []).map Prod.fst)
      | some (.collection .sequence) =>
          if number ∈ around then .enclosingSequence else .sequence (items.map inner)
      | some (.collection .pairs) =>
          if number ∈ around then .enclosingSequence
          else
            .sequence (items.map fun item =>
              match state.graph.entriesOf? item with
              | some [(key, value)] => .pair (inner key) (inner value)
              | _ => .null)
      | _ => (state.scalars.lookup number).getD .null

/-- The value of the root.  What is in it is seen from its own place, so that it may
show the root once more. -/
def rootValue (state : Valuation) (root : Nat) : Datum :=
  let depth := 2 * (state.graph.size + 1)
  match typeOfTag? (state.graph.tagOf root), state.graph.entriesOf? root with
  | some (.collection .mapping), some entries =>
      .mapping (entries.foldl
        (fun known (key, value) =>
          Datum.putEntry known (state.valueOf [] depth key) (state.valueOf [] depth value)) [])
  | _, _ => state.valueOf [] depth root

end Valuation

/-- The value of a text; an empty document has the value null. -/
def read (text : String) : Except Fault Datum := do
  match ← composeTokens (tokensOf text) with
  | (none, _) => return .null
  | (some root, graph) =>
      let (_, state) ← (Evaluate.all root).run ⟨graph, [], [], []⟩
      return state.rootValue root

end AddonBindings.Yaml
