import AddonBindings.Go.Syntax

/-!
Contract: which comments belong to which declaration.

Owns: the groups of comments on consecutive lines, and the group that ends right
above a declaration.

Does not own: what the comments say, which is in `AddonBindings.Export.Comment`.
-/

namespace AddonBindings.Export

open AddonBindings.Go

/-- The comments on consecutive lines that have been read last, the newest first,
and the row on which the last declaration ends. -/
structure Gathering where
  newestFirst : List Comment
  lastRow : Option Nat
deriving DecidableEq, Repr

namespace Gathering

/-- Before anything has been read. -/
def start : Gathering := ⟨[], none⟩

/-- After one more comment.  A comment behind a declaration does not count, and a
line without a comment starts a new group. -/
def addComment (gathering : Gathering) (comment : Comment) : Gathering :=
  if gathering.lastRow = some comment.start.row then gathering
  else
    match gathering.newestFirst with
    | [] => { gathering with newestFirst := [comment] }
    | newest :: older =>
        if newest.stop.row + 1 < comment.start.row then { gathering with newestFirst := [comment] }
        else { gathering with newestFirst := comment :: newest :: older }

/-- The group that belongs to a node: it ends on the row above. -/
def attachedTo (gathering : Gathering) (node : Node) : List Comment :=
  match gathering.newestFirst with
  | [] => []
  | newest :: older =>
      if newest.stop.row + 1 = node.start.row then (newest :: older).reverse else []

def addNode (_ : Gathering) (node : Node) : Gathering :=
  ⟨[], some node.stop.row⟩

end Gathering

/-- The nodes with the comments that belong to them, given what has been gathered
before. -/
def attachedAfter (gathering : Gathering) : List RootChild → List (Node × List Comment)
  | [] => []
  | .comment comment :: rest => attachedAfter (gathering.addComment comment) rest
  | .mark _ _ :: rest => attachedAfter gathering rest
  | .node node :: rest =>
      (node, gathering.attachedTo node) :: attachedAfter (gathering.addNode node) rest

/-- The nodes of a file with the comments that belong to them. -/
def attached (children : List RootChild) : List (Node × List Comment) :=
  attachedAfter .start children

/-- Attachment keeps the nodes and their order. -/
theorem map_fst_attachedAfter (gathering : Gathering) (children : List RootChild) :
    (attachedAfter gathering children).map Prod.fst =
      children.filterMap fun child =>
        match child with
        | .node node => some node
        | _ => none := by
  induction children generalizing gathering with
  | nil => rfl
  | cons child rest inductionHypothesis =>
      cases child with
      | comment comment => simpa [attachedAfter] using inductionHypothesis _
      | mark start stop => simpa [attachedAfter] using inductionHypothesis _
      | node node => simpa [attachedAfter] using inductionHypothesis _

end AddonBindings.Export
