import AddonBindings.Export.Attachment
import AddonBindings.Export.Comment
import AddonBindings.Export.Signature
import AddonBindings.GenerationFault
import AddonBindings.Go.SourceFile

/-!
Contract: the exported functions of a Go source.

Owns:
- which functions of a file are exported;
- the record of an exported function, or why it cannot be exported;
- extraction from a source text.

Does not own: reading files, which is in `AddonBindings.Export.File`.
-/

namespace AddonBindings.Export

open AddonBindings.Go

def SignatureFault.toProblem : SignatureFault → Problem
  | unsupportedType raw => .unsupportedType raw
  | multipleResults count => .multipleResults count

def isMarked (comments : List Comment) : Bool :=
  comments.any fun comment => isExportMarker comment.text

def record (file : String) (declaration : FunctionDeclaration) (comments : List Comment)
    (start : Position) : Except GenerationFault ExportedFunction := do
  let (parameters, result) ← (signature declaration).mapError fun fault =>
    ⟨fault.toProblem, some file, some declaration.name⟩
  return {
    name := declaration.name
    parameters := parameters
    result := result
    documentation := documentation (comments.map Comment.text)
    sourceFile := file
    line := Int.ofNat start.row + 1 }

/-- The record of a node, if it is an exported function. -/
def recordOfNode (file : String) (node : Node) (comments : List Comment) :
    Except GenerationFault (Option ExportedFunction) :=
  match node.content with
  | .other => .ok none
  | .function declaration =>
      if isMarked comments then (record file declaration comments node.start).map some
      else .ok none

/-- The records of nodes with their comments; the first that cannot be exported is
the failure. -/
def recordsOfAttached (file : String) :
    List (Node × List Comment) → Except GenerationFault (List ExportedFunction)
  | [] => .ok []
  | (node, comments) :: rest => do
      let found ← recordOfNode file node comments
      let others ← recordsOfAttached file rest
      return found.toList ++ others

/-- The exported functions of a file, in the order of their declarations. -/
def ofChildren (file : String) (children : List RootChild) :
    Except GenerationFault (List ExportedFunction) :=
  recordsOfAttached file (attached children)

def ofSource (file source : String) : Except GenerationFault (List ExportedFunction) :=
  match readSource source with
  | .error position =>
      .error ⟨.source (.badSyntax (SyntaxNode.unreadableAt position).complaint), some file, none⟩
  | .ok children => ofChildren file children

end AddonBindings.Export
