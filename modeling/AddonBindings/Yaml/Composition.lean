import AddonBindings.Yaml.Graph

/-!
Contract: the node graph of a sequence of YAML tokens.

Owns:
- the structure of block and flow collections;
- anchors and aliases;
- the full tags of nodes;
- that a text holds at most one document.

Does not own: the tokens, which are in `AddonBindings.Yaml.Tokens`.
-/

namespace AddonBindings.Yaml

structure Composing where
  tokens : List Token
  graph : Graph
  anchors : List (String × Nat)
  /-- The short forms for the starts of tags. -/
  handles : List (String × String)
deriving Repr

abbrev Compose (α : Type) := StateT Composing (Except Fault) α

namespace Compose

def peek : Compose Token := do
  return (← get).tokens.headD .streamEnd

/-- Pass over a token. -/
def advance : Compose Unit :=
  modify fun state => { state with tokens := state.tokens.tail }

/-- The next token may not stand here, or the text cannot be cut here. -/
def unexpected {α : Type} : Compose α := do
  match ← peek with
  | .broken fault => throw fault
  | _ => throw .malformed

/-- Pass over a token that has to stand here. -/
def expect (token : Token) : Compose Unit := do
  if (← peek) == token then advance else unexpected

def addNode (tag : String) (content : Content) : Compose Nat := do
  let state ← get
  set { state with graph := state.graph.push ⟨tag, content⟩ }
  return state.graph.size

/-- The node that stands where nothing is written. -/
def emptyNode : Compose Nat := addNode (plainTag "") (.scalar "")

def remember (anchor : Option String) (number : Nat) : Compose Unit :=
  match anchor with
  | none => return ()
  | some name => modify fun state => { state with anchors := (name, number) :: state.anchors }

def anchored (name : String) : Compose Nat := do
  match (← get).anchors.lookup name with
  | some number => return number
  | none => throw .malformed

def fullTag (handle : Option String) (suffix : String) : Compose String := do
  match handle with
  | none => return suffix
  | some handle =>
      match (← get).handles.lookup handle with
      | some start => return start ++ suffix
      | none => throw .malformed

/-- The anchor at the next token, if there is one. -/
def takeAnchor : Compose (Option String) := do
  match ← peek with
  | .anchor name => advance; return some name
  | _ => return none

/-- The tag at the next token, if there is one. -/
def takeTag : Compose (Option String) := do
  match ← peek with
  | .tag handle suffix =>
      advance
      return some (← fullTag handle suffix)
  | _ => return none

/-- The anchor and the tag before a node, in either order.  An anchor may be given
only once. -/
def takeProperties : Compose (Option String × Option String) := do
  let first ← takeAnchor
  let tag ← takeTag
  let anchor ← if first.isNone && tag.isSome then takeAnchor else pure first
  if let some name := anchor then
    if ((← get).anchors.lookup name).isSome then throw .malformed
  return (anchor, tag)

/-- The tag leaves the type to the shape of the node. -/
def isOpen (tag : Option String) : Bool := tag.isNone || tag == some "!"

def scalarTag (tag : Option String) (text : String) (plain : Bool) : String :=
  match tag with
  | none => if plain then plainTag text else ownTag "str"
  | some "!" => plainTag text
  | some tag => tag

def collectionTag (tag : Option String) (name : String) : String :=
  if isOpen tag then ownTag name else tag.getD ""

/-- A collection: it is remembered before what is in it is composed. -/
def collection (anchor : Option String) (tag : String) (content : Compose Content) :
    Compose Nat := do
  let number ← addNode tag (.scalar "")
  remember anchor number
  let content ← content
  modify fun state => { state with graph := state.graph.setContent number content }
  return number

mutual

/-- A node.  Block collections are allowed if `block`, and a sequence without
indentation of its own if `flush`.  Nodes are nested at most `depth` deep. -/
def node (block flush : Bool) : Nat → Compose Nat
  | 0 => throw .malformed
  | depth + 1 => do
      if let .alias name ← peek then
        advance
        anchored name
      else
        let (anchor, tag) ← takeProperties
        let token ← peek
        if flush && token == .blockEntry then
          collection anchor (collectionTag tag "seq") (return .sequence (← flushItems depth))
        else
          match token, block with
          | .scalar text plain, _ => do
              advance
              let number ← addNode (scalarTag tag text plain) (.scalar text)
              remember anchor number
              return number
          | .flowSequenceStart, _ => do
              advance
              collection anchor (collectionTag tag "seq")
                (return .sequence (← flowItems true depth))
          | .flowMappingStart, _ => do
              advance
              collection anchor (collectionTag tag "map")
                (return .mapping (← flowEntries true depth))
          | .blockSequenceStart, true => do
              advance
              collection anchor (collectionTag tag "seq") (return .sequence (← blockItems depth))
          | .blockMappingStart, true => do
              advance
              collection anchor (collectionTag tag "map") (return .mapping (← blockEntries depth))
          | .broken fault, _ => throw fault
          | _, _ => do
              if anchor.isNone && tag.isNone then throw .malformed
              let number ← addNode (scalarTag tag "" true) (.scalar "")
              remember anchor number
              return number

def nodeUnless (tokens : List Token) (block flush : Bool) : Nat → Compose Nat
  | 0 => throw .malformed
  | depth + 1 => do
      if (← peek) ∈ tokens then emptyNode else node block flush depth

def blockItems : Nat → Compose (List Nat)
  | 0 => throw .malformed
  | depth + 1 => do
      if (← peek) == .blockEntry then
        advance
        let item ← nodeUnless [.blockEntry, .blockEnd] true false depth
        return item :: (← blockItems depth)
      else
        expect .blockEnd
        return []

/-- The items of a sequence that has the indentation of its mapping. -/
def flushItems : Nat → Compose (List Nat)
  | 0 => throw .malformed
  | depth + 1 => do
      if (← peek) == .blockEntry then
        advance
        let item ← nodeUnless [.blockEntry, .key, .value, .blockEnd] true false depth
        return item :: (← flushItems depth)
      else return []

def blockEntries : Nat → Compose (List (Nat × Nat))
  | 0 => throw .malformed
  | depth + 1 => do
      if (← peek) == .key then
        advance
        let key ← nodeUnless [.key, .value, .blockEnd] true true depth
        let value ← entryValue [.key, .value, .blockEnd] true depth
        return (key, value) :: (← blockEntries depth)
      else
        expect .blockEnd
        return []

/-- The value of an entry, which is empty without a colon or before one of the
tokens. -/
def entryValue (tokens : List Token) (block : Bool) : Nat → Compose Nat
  | 0 => throw .malformed
  | depth + 1 => do
      if (← peek) == .value then
        advance
        nodeUnless tokens block block depth
      else emptyNode

/-- The items of a flow sequence.  A key makes an item a mapping with one entry. -/
def flowItems (first : Bool) : Nat → Compose (List Nat)
  | 0 => throw .malformed
  | depth + 1 => do
      if (← peek) == .flowSequenceEnd then
        advance
        return []
      else
        if !first then expect .flowEntry
        match ← peek with
        | .flowSequenceEnd => do
            advance
            return []
        | .key => do
            advance
            let item ← collection none (ownTag "map") do
              let key ← nodeUnless [.value, .flowEntry, .flowSequenceEnd] false false depth
              let value ← entryValue [.flowEntry, .flowSequenceEnd] false depth
              return .mapping [(key, value)]
            return item :: (← flowItems false depth)
        | _ => do
            let item ← node false false depth
            return item :: (← flowItems false depth)

/-- The entries of a flow mapping.  A node without a key mark is a key without a
value. -/
def flowEntries (first : Bool) : Nat → Compose (List (Nat × Nat))
  | 0 => throw .malformed
  | depth + 1 => do
      if (← peek) == .flowMappingEnd then
        advance
        return []
      else
        if !first then expect .flowEntry
        match ← peek with
        | .flowMappingEnd => do
            advance
            return []
        | .key => do
            advance
            let key ← nodeUnless [.value, .flowEntry, .flowMappingEnd] false false depth
            let value ← entryValue [.flowEntry, .flowMappingEnd] false depth
            return (key, value) :: (← flowEntries false depth)
        | _ => do
            let key ← node false false depth
            let value ← emptyNode
            return (key, value) :: (← flowEntries false depth)

end

def commonHandles : List (String × String) := [("!", "!"), ("!!", ownTagStart)]

/-- The directives before a document, at most `count` of them.  The version may be
given once, and each handle once. -/
def directives (versionSeen : Bool) (handles : List (String × String)) :
    Nat → Compose (List (String × String))
  | 0 => throw .malformed
  | count + 1 => do
      match ← peek with
      | .versionDirective major =>
          advance
          if versionSeen || major != 1 then throw .malformed
          directives true handles count
      | .tagDirective handle start =>
          advance
          if (handles.lookup handle).isSome then throw .malformed
          directives versionSeen ((handle, start) :: handles) count
      | .otherDirective =>
          advance
          directives versionSeen handles count
      | _ => return handles

/-- Pass over marks for the end of a document, at most `count` of them. -/
def passEnds : Nat → Compose Unit
  | 0 => return ()
  | count + 1 => do
      if (← peek) == .documentEnd then
        advance
        passEnds count

def markedDocument (bound : Nat) : Compose Nat := do
  let handles ← directives false [] bound
  modify fun state => { state with handles := handles ++ commonHandles }
  expect .documentStart
  match ← peek with
  | .versionDirective _ | .tagDirective _ _ | .otherDirective | .documentStart | .documentEnd
  | .streamEnd => emptyNode
  | _ => node true false bound

/-- The only document; nothing if there is none. -/
def document : Compose (Option Nat) := do
  let bound := 4 * ((← get).tokens.length + 1)
  match ← peek with
  | .streamEnd => return none
  | first =>
      let root ←
        match first with
        | .versionDirective _ | .tagDirective _ _ | .otherDirective | .documentStart =>
            markedDocument bound
        | _ => node true false bound
      passEnds bound
      expect .streamEnd
      return some root

end Compose

/-- The graph of the only document and the number of its root. -/
def composeTokens (tokens : List Token) : Except Fault (Option Nat × Graph) :=
  (Compose.document.run ⟨tokens, #[], [], Compose.commonHandles⟩).map fun (root, state) =>
    (root, state.graph)

end AddonBindings.Yaml
