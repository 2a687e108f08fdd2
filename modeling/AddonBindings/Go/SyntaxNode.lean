import AddonBindings.Go.Position

/-!
Contract: syntax trees with errors.

Owns:
- trees whose nodes say whether an error is inside them;
- the search for the first error;
- the complaint about a tree and its wording.

Does not own: trees without errors, which are in `AddonBindings.Go.Syntax`.
-/

namespace AddonBindings.Go

/-- A node of a syntax tree.  A missing node stands for a token that the grammar
asks for and the source does not have. -/
inductive SyntaxNode where
  | node (kind : String) (start : Position) (missing hasError : Bool)
      (children : List SyntaxNode)
deriving Repr

/-- What is wrong with a source. -/
inductive SyntaxComplaint where
  /-- The tree says that there is an error, but holds none. -/
  | unlocated
  /-- Something cannot be read at this place. -/
  | unexpected (position : Position)
  /-- A token of this kind is missing at this place. -/
  | missing (kind : String) (position : Position)
deriving DecidableEq, Repr

namespace SyntaxNode

def kind : SyntaxNode → String
  | node kind _ _ _ _ => kind

def start : SyntaxNode → Position
  | node _ start _ _ _ => start

/-- The node stands for a missing token. -/
def isMissing : SyntaxNode → Bool
  | node _ _ missing _ _ => missing

def hasError : SyntaxNode → Bool
  | node _ _ _ hasError _ => hasError

def children : SyntaxNode → List SyntaxNode
  | node _ _ _ _ children => children

def isFault (tree : SyntaxNode) : Bool :=
  tree.kind == "ERROR" || tree.isMissing

mutual

/-- The first error of a tree in the order of the source.  Below the root, only
nodes that say so are searched. -/
def firstFault? : SyntaxNode → Option SyntaxNode
  | node kind start missing hasError children =>
      if kind == "ERROR" || missing then some (node kind start missing hasError children)
      else firstFaultIn? children

/-- The first error among siblings. -/
def firstFaultIn? : List SyntaxNode → Option SyntaxNode
  | [] => none
  | child :: rest =>
      if child.hasError || child.isMissing then
        match firstFault? child with
        | some found => some found
        | none => firstFaultIn? rest
      else firstFaultIn? rest

end

def complaint (tree : SyntaxNode) : SyntaxComplaint :=
  match tree.firstFault? with
  | none => .unlocated
  | some found =>
      if found.isMissing then .missing found.kind found.start else .unexpected found.start

/-- The tree of a source that cannot be read from `position` on. -/
def unreadableAt (position : Position) : SyntaxNode :=
  node "source_file" .origin false true [node "ERROR" position false true []]

end SyntaxNode

/-- The wording of a complaint, with the place counted from one. -/
def SyntaxComplaint.message : SyntaxComplaint → String
  | unlocated => "syntax error"
  | unexpected position => "syntax error" ++ place position
  | missing kind position => "missing " ++ kind ++ place position
where
  place (position : Position) : String :=
    " at line " ++ toString (position.row + 1) ++ ", column " ++ toString (position.column + 1)

end AddonBindings.Go
