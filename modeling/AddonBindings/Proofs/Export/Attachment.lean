import AddonBindings.Export.Attachment
import AddonBindings.Proofs.Go.SourceOrder
import Mathlib.Data.List.Induction

/-!
Contract: the comments above a node, told from what stands before it.

Owns:
- the nodes of a file, each with the children before it;
- the comments above a node: the latest run of comments that stand on lines of
  their own, if it ends on the row above the node;
- agreement with the one pass that gathers comments;
- the rows of nodes with comments above them.

Does not own: what the comments say.
-/

namespace AddonBindings.Export

open AddonBindings.Go

/-! ## The children before a node -/

def node? : RootChild → Option Node
  | .node node => some node
  | _ => none

def comment? : RootChild → Option Comment
  | .comment comment => some comment
  | _ => none

@[simp] theorem node?_node (node : Node) : node? (.node node) = some node := rfl

@[simp] theorem node?_comment (comment : Comment) : node? (.comment comment) = none := rfl

@[simp] theorem node?_mark (start stop : Position) : node? (.mark start stop) = none := rfl

@[simp] theorem comment?_comment (comment : Comment) :
    comment? (.comment comment) = some comment := rfl

@[simp] theorem comment?_mark (start stop : Position) : comment? (.mark start stop) = none := rfl

/-- The nodes among children, each with all that stands before it: `before`, and
the children in front of it. -/
def nodesAfter (before : List RootChild) : List RootChild → List (List RootChild × Node)
  | [] => []
  | child :: rest =>
      (node? child).toList.map (before, ·) ++ nodesAfter (before ++ [child]) rest

def lastRow? (before : List RootChild) : Option Nat :=
  before.reverse.findSome? fun child => (node? child).map (·.stop.row)

/-- The comments after the last node, the newest first. -/
def commentsSinceNode (before : List RootChild) : List Comment :=
  (before.reverse.takeWhile fun child => (node? child).isNone).filterMap comment?

/-- Those that do not stand behind the last node on the row on which it ends. -/
def ownLineComments (before : List RootChild) : List Comment :=
  (commentsSinceNode before).filter fun comment => lastRow? before ≠ some comment.start.row

/-- The newest of the comments, as long as no line between them is without a
comment.  The newest comes first. -/
def latestRun : List Comment → List Comment
  | [] => []
  | [comment] => [comment]
  | newer :: older :: rest =>
      if older.stop.row + 1 < newer.start.row then [newer] else newer :: latestRun (older :: rest)

/-- The comments that belong to a node, in source order: the latest run before it,
if its last comment ends on the row above. -/
def commentsAbove (before : List RootChild) (node : Node) : List Comment :=
  let run := latestRun (ownLineComments before)
  if run.head?.any fun newest => newest.stop.row + 1 = node.start.row then run.reverse else []

/-! ## What one more child changes -/

theorem lastRow?_append_comment (before : List RootChild) (comment : Comment) :
    lastRow? (before ++ [.comment comment]) = lastRow? before := by
  simp [lastRow?, List.findSome?_cons]

theorem lastRow?_append_mark (before : List RootChild) (start stop : Position) :
    lastRow? (before ++ [.mark start stop]) = lastRow? before := by
  simp [lastRow?, List.findSome?_cons]

theorem lastRow?_append_node (before : List RootChild) (node : Node) :
    lastRow? (before ++ [.node node]) = some node.stop.row := by
  simp [lastRow?, List.findSome?_cons]

/-- A comment that starts on the row where the last node ends belongs to that node. -/
theorem ownLineComments_append_comment (before : List RootChild) (comment : Comment) :
    ownLineComments (before ++ [.comment comment]) =
      if lastRow? before = some comment.start.row then ownLineComments before
      else comment :: ownLineComments before := by
  have since : commentsSinceNode (before ++ [.comment comment]) =
      comment :: commentsSinceNode before := by
    simp [commentsSinceNode, List.takeWhile_cons]
  rw [ownLineComments, since, lastRow?_append_comment, List.filter_cons]
  by_cases behind : lastRow? before = some comment.start.row
  · rw [if_pos behind, if_neg (by simpa using behind), ownLineComments]
  · rw [if_neg behind, if_pos (by simpa using behind), ownLineComments]

theorem ownLineComments_append_mark (before : List RootChild) (start stop : Position) :
    ownLineComments (before ++ [.mark start stop]) = ownLineComments before := by
  have since : commentsSinceNode (before ++ [.mark start stop]) = commentsSinceNode before := by
    simp [commentsSinceNode, List.takeWhile_cons, List.filterMap_cons]
  rw [ownLineComments, since, lastRow?_append_mark, ownLineComments]

theorem ownLineComments_append_node (before : List RootChild) (node : Node) :
    ownLineComments (before ++ [.node node]) = [] := by
  have since : commentsSinceNode (before ++ [.node node]) = [] := by
    simp [commentsSinceNode]
  rw [ownLineComments, since, List.filter_nil]

/-- An empty row between two comments ends the run. -/
theorem latestRun_cons_cons (newer older : Comment) (rest : List Comment) :
    latestRun (newer :: older :: rest) =
      if older.stop.row + 1 < newer.start.row then [newer]
      else newer :: latestRun (older :: rest) := rfl

theorem exists_latestRun_cons (newest : Comment) (older : List Comment) :
    ∃ others, latestRun (newest :: older) = newest :: others := by
  cases older with
  | nil => exact ⟨[], rfl⟩
  | cons next rest =>
      rw [latestRun_cons_cons]
      by_cases apart : next.stop.row + 1 < newest.start.row
      · exact ⟨[], if_pos apart⟩
      · exact ⟨latestRun (next :: rest), if_neg apart⟩

/-! ## The gathering after the children before a node -/

def gatheringOf (before : List RootChild) : Gathering :=
  ⟨latestRun (ownLineComments before), lastRow? before⟩

private theorem addComment_gatheringOf (before : List RootChild) (comment : Comment) :
    (gatheringOf before).addComment comment = gatheringOf (before ++ [.comment comment]) := by
  rw [gatheringOf, gatheringOf, Gathering.addComment, lastRow?_append_comment,
    ownLineComments_append_comment]
  by_cases behind : lastRow? before = some comment.start.row
  · rw [if_pos behind, if_pos behind]
  · rw [if_neg behind, if_neg behind]
    cases own : ownLineComments before with
    | nil => rfl
    | cons newest older =>
        obtain ⟨others, run⟩ := exists_latestRun_cons newest older
        rw [latestRun_cons_cons, run]
        by_cases apart : newest.stop.row + 1 < comment.start.row
        · simp only [if_pos apart]
        · simp only [if_neg apart]

private theorem gatheringOf_append_mark (before : List RootChild) (start stop : Position) :
    gatheringOf (before ++ [.mark start stop]) = gatheringOf before := by
  rw [gatheringOf, ownLineComments_append_mark, lastRow?_append_mark, gatheringOf]

private theorem addNode_gatheringOf (before : List RootChild) (node : Node) :
    (gatheringOf before).addNode node = gatheringOf (before ++ [.node node]) := by
  show (⟨[], some node.stop.row⟩ : Gathering) = gatheringOf (before ++ [.node node])
  rw [gatheringOf, ownLineComments_append_node, lastRow?_append_node]
  rfl

private theorem attachedTo_gatheringOf (before : List RootChild) (node : Node) :
    (gatheringOf before).attachedTo node = commentsAbove before node := by
  rw [gatheringOf, Gathering.attachedTo, commentsAbove]
  cases latestRun (ownLineComments before) with
  | nil => rfl
  | cons newest older =>
      by_cases touches : newest.stop.row + 1 = node.start.row
      · simp [touches]
      · simp [touches]

theorem nodesAfter_append (before front back : List RootChild) :
    nodesAfter before (front ++ back) =
      nodesAfter before front ++ nodesAfter (before ++ front) back := by
  induction front generalizing before with
  | nil => simp [nodesAfter]
  | cons child rest inductionHypothesis =>
      rw [List.cons_append, nodesAfter, nodesAfter, inductionHypothesis, List.append_assoc,
        List.append_assoc, List.singleton_append]

/-- The pass over the rest of a file attaches to each node the comments above it. -/
theorem attachedAfter_gatheringOf (before children : List RootChild) :
    attachedAfter (gatheringOf before) children =
      (nodesAfter before children).map fun placed =>
        (placed.2, commentsAbove placed.1 placed.2) := by
  -- along the pass, the gathering is that of all the children passed
  induction children generalizing before with
  | nil => rfl
  | cons child rest inductionHypothesis =>
      cases child with
      | comment comment =>
          rw [attachedAfter, addComment_gatheringOf, inductionHypothesis]
          rfl
      | mark start stop =>
          rw [attachedAfter, ← gatheringOf_append_mark before start stop, inductionHypothesis]
          rfl
      | node node =>
          rw [attachedAfter, attachedTo_gatheringOf, addNode_gatheringOf, inductionHypothesis]
          rfl

/-- Attachment in one pass gives each node the comments above it. -/
theorem attached_eq (children : List RootChild) :
    attached children =
      (nodesAfter [] children).map fun placed => (placed.2, commentsAbove placed.1 placed.2) :=
  attachedAfter_gatheringOf [] children

/-- What is attached in front of a node and behind it does not depend on the content of
the node. -/
theorem attached_append_node (before later : List RootChild) (node : Node) :
    attached (before ++ .node node :: later) =
      attached before ++ (node, commentsAbove before node) ::
        attachedAfter ((gatheringOf before).addNode node) later := by
  rw [attached_eq, attached_eq, nodesAfter_append, List.map_append, List.nil_append,
    addNode_gatheringOf, attachedAfter_gatheringOf]
  rfl

/-! ## Places of nodes -/

/-- A node comes with exactly the children in front of it. -/
theorem mem_nodesAfter_iff {before children front : List RootChild} {node : Node} :
    (front, node) ∈ nodesAfter before children ↔
      ∃ skipped later, children = skipped ++ .node node :: later ∧ front = before ++ skipped := by
  induction children generalizing before with
  | nil => simp [nodesAfter]
  | cons child rest inductionHypothesis =>
      rw [nodesAfter, List.mem_append, inductionHypothesis]
      constructor
      · rintro (here | ⟨skipped, later, rfl, rfl⟩)
        · cases child with
          | node found =>
              simp only [node?, Option.toList_some, List.map_cons, List.map_nil,
                List.mem_singleton, Prod.mk.injEq] at here
              obtain ⟨rfl, rfl⟩ := here
              exact ⟨[], rest, rfl, (List.append_nil _).symm⟩
          | comment comment => simp [node?] at here
          | mark start stop => simp [node?] at here
        · exact ⟨child :: skipped, later, rfl, by simp⟩
      · rintro ⟨skipped, later, split, rfl⟩
        cases skipped with
        | nil =>
            obtain ⟨rfl, rfl⟩ := List.cons_eq_cons.mp split
            left
            simp [node?]
        | cons first others =>
            obtain ⟨rfl, rfl⟩ := List.cons_eq_cons.mp split
            right
            exact ⟨others, later, rfl, by simp⟩

theorem mem_nodesAfter_nil_iff {children before : List RootChild} {node : Node} :
    (before, node) ∈ nodesAfter [] children ↔
      ∃ later, children = before ++ .node node :: later := by
  rw [mem_nodesAfter_iff]
  constructor
  · rintro ⟨_, later, split, rfl⟩
    exact ⟨later, split⟩
  · rintro ⟨later, split⟩
    exact ⟨before, later, split, rfl⟩

theorem nodesAfter_pairwise (before children : List RootChild) :
    (nodesAfter before children).Pairwise fun earlier later =>
      .node earlier.2 ∈ later.1 := by
  induction children generalizing before with
  | nil => exact List.Pairwise.nil
  | cons child rest inductionHypothesis =>
      rw [nodesAfter, List.pairwise_append]
      refine ⟨?_, inductionHypothesis _, ?_⟩
      · cases child with
        | node node => exact List.pairwise_singleton _ _
        | comment comment => exact List.Pairwise.nil
        | mark start stop => exact List.Pairwise.nil
      · intro earlier isChild later isLater
        obtain ⟨skipped, _, -, front⟩ := mem_nodesAfter_iff.mp isLater
        cases child with
        | node node =>
            obtain rfl := List.mem_singleton.mp isChild
            rw [front]
            simp
        | comment comment => cases isChild
        | mark start stop => cases isChild

/-! ## Rows -/

/-- No node ends below the row on which the last one ends. -/
theorem exists_lastRow? {before : List RootChild} (inOrder : InSourceOrder before) {node : Node}
    (member : .node node ∈ before) :
    ∃ last, .node last ∈ before ∧ lastRow? before = some last.stop.row ∧
      node.stop.row ≤ last.stop.row := by
  induction before using List.reverseRecOn with
  | nil => cases member
  | append_singleton before child inductionHypothesis =>
      cases child with
      | node newest =>
          refine ⟨newest, by simp, lastRow?_append_node before newest, ?_⟩
          rcases List.mem_append.mp member with earlier | isNewest
          · have starts : node.stop.row ≤ newest.start.row :=
              inOrder.row_le earlier (List.mem_singleton_self (RootChild.node newest))
            have isLast : RootChild.node newest ∈ before ++ [.node newest] := by simp
            have spans : newest.start.row ≤ newest.stop.row :=
              inOrder.start_row_le_stop_row isLast
            exact Nat.le_trans starts spans
          · cases List.mem_singleton.mp isNewest
            exact Nat.le_refl _
      | comment comment =>
          have earlier : .node node ∈ before := by simpa using member
          obtain ⟨last, among, row, below⟩ := inductionHypothesis inOrder.of_append earlier
          rw [lastRow?_append_comment]
          exact ⟨last, List.mem_append_left _ among, row, below⟩
      | mark start stop =>
          have earlier : .node node ∈ before := by simpa using member
          obtain ⟨last, among, row, below⟩ := inductionHypothesis inOrder.of_append earlier
          rw [lastRow?_append_mark]
          exact ⟨last, List.mem_append_left _ among, row, below⟩

/-- A comment on a line of its own starts below every node before it. -/
theorem row_lt_of_mem_ownLineComments {before : List RootChild} (inOrder : InSourceOrder before)
    {comment : Comment} (own : comment ∈ ownLineComments before) {node : Node}
    (member : .node node ∈ before) : node.stop.row < comment.start.row := by
  -- from the last child on: a node takes all gathered comments away, a comment is only
  -- kept below the last row
  induction before using List.reverseRecOn with
  | nil => cases member
  | append_singleton before child inductionHypothesis =>
      cases child with
      | node newest =>
          rw [ownLineComments_append_node] at own
          cases own
      | mark start stop =>
          rw [ownLineComments_append_mark] at own
          exact inductionHypothesis inOrder.of_append own (by simpa using member)
      | comment newest =>
          have earlier : .node node ∈ before := by simpa using member
          rw [ownLineComments_append_comment] at own
          by_cases behind : lastRow? before = some newest.start.row
          · rw [if_pos behind] at own
            exact inductionHypothesis inOrder.of_append own earlier
          · rw [if_neg behind] at own
            rcases List.mem_cons.mp own with rfl | older
            · -- the row of the last node is not below the comment, and it is another row
              obtain ⟨last, among, row, below⟩ := exists_lastRow? inOrder.of_append earlier
              have starts : last.stop.row ≤ comment.start.row :=
                inOrder.row_le among (List.mem_singleton_self (RootChild.comment comment))
              have differs : last.stop.row ≠ comment.start.row := by
                intro same
                exact behind (row.trans (congrArg some same))
              omega
            · exact inductionHypothesis inOrder.of_append older earlier

theorem isPrefix_latestRun (comments : List Comment) : latestRun comments <+: comments := by
  induction comments with
  | nil => exact List.nil_prefix
  | cons newer rest inductionHypothesis =>
      cases rest with
      | nil => exact List.prefix_rfl
      | cons older others =>
          rw [latestRun_cons_cons]
          by_cases apart : older.stop.row + 1 < newer.start.row
          · rw [if_pos apart]
            exact ⟨older :: others, rfl⟩
          · rw [if_neg apart]
            exact List.cons_prefix_cons.mpr ⟨rfl, inductionHypothesis⟩

theorem mem_ownLineComments_of_mem_commentsAbove {before : List RootChild} {node : Node}
    {comment : Comment} (above : comment ∈ commentsAbove before node) :
    comment ∈ ownLineComments before := by
  rw [commentsAbove] at above
  split at above
  · exact (isPrefix_latestRun _).subset (List.mem_reverse.mp above)
  · cases above

theorem mem_of_mem_ownLineComments {before : List RootChild} {comment : Comment}
    (own : comment ∈ ownLineComments before) : .comment comment ∈ before := by
  obtain ⟨child, taken, isComment⟩ := List.mem_filterMap.mp (List.mem_filter.mp own).1
  have member : child ∈ before := List.mem_reverse.mp ((List.takeWhile_prefix _).subset taken)
  cases child with
  | comment found =>
      cases isComment
      exact member
  | node node => cases isComment
  | mark start stop => cases isComment

/-- A node with comments above it starts below every earlier one. -/
theorem start_row_lt_of_mem_commentsAbove {before later : List RootChild} {node : Node}
    (inOrder : InSourceOrder (before ++ .node node :: later)) {comment : Comment}
    (above : comment ∈ commentsAbove before node) {earlier : Node}
    (member : .node earlier ∈ before) : earlier.start.row < node.start.row := by
  have own := mem_ownLineComments_of_mem_commentsAbove above
  have isBefore := mem_of_mem_ownLineComments own
  have spans : earlier.start.row ≤ earlier.stop.row :=
    inOrder.start_row_le_stop_row (List.mem_append_left _ member)
  have below : earlier.stop.row < comment.start.row :=
    row_lt_of_mem_ownLineComments inOrder.of_append own member
  have commentSpans : comment.start.row ≤ comment.stop.row :=
    inOrder.start_row_le_stop_row (List.mem_append_left _ isBefore)
  have starts : comment.stop.row ≤ node.start.row :=
    inOrder.row_le isBefore (List.mem_cons_self (a := RootChild.node node))
  omega

end AddonBindings.Export
