import AddonBindings.Yaml.Tag
import AddonBindings.Yaml.Token

/-!
Contract: YAML documents as graphs of nodes.

Owns: nodes with their tags, which refer to one another by number, so that an alias
is one more reference to the same node.

Does not own: how documents are read, which is in `AddonBindings.Yaml.Composition`,
and the values of nodes, which are in `AddonBindings.Yaml.Document`.
-/

namespace AddonBindings.Yaml

/-- What a node consists of; other nodes are given by their numbers. -/
inductive Content where
  | scalar (text : String)
  | sequence (items : List Nat)
  | mapping (entries : List (Nat × Nat))
deriving DecidableEq, Repr

structure Node where
  tag : String
  content : Content
deriving DecidableEq, Repr

abbrev Graph := Array Node

namespace Graph

def tagOf (graph : Graph) (number : Nat) : String :=
  (graph[number]?.map Node.tag).getD ""

/-- The entries of a node, if it is a mapping. -/
def entriesOf? (graph : Graph) (number : Nat) : Option (List (Nat × Nat)) :=
  match graph[number]? with
  | some ⟨_, .mapping entries⟩ => some entries
  | _ => none

/-- The items of a node, if it is a sequence. -/
def itemsOf? (graph : Graph) (number : Nat) : Option (List Nat) :=
  match graph[number]? with
  | some ⟨_, .sequence items⟩ => some items
  | _ => none

def setContent (graph : Graph) (number : Nat) (content : Content) : Graph :=
  graph.modify number fun node => { node with content := content }

def setTag (graph : Graph) (number : Nat) (tag : String) : Graph :=
  graph.modify number fun node => { node with tag := tag }

end Graph

end AddonBindings.Yaml
