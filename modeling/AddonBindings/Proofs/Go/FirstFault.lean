import AddonBindings.Go.SyntaxNode

/-!
Contract: the first error of a syntax tree.

Owns:
- the nodes of a tree in the order of the source;
- the tree without the parts that say nothing of an error, and the nodes that are left;
- trees whose nodes tell the truth about errors inside them;
- the capstone: the search finds the first error among the nodes that are left, which is
  the first error of the whole tree if its nodes tell the truth, and the complaint names
  the place of this error.

Does not own: how a source gets its tree.
-/

namespace AddonBindings.Go.SyntaxNode

/-! ## Nodes in the order of the source -/

mutual

/-- The nodes of a tree in the order of the source, each before what is inside it. -/
def preorder : SyntaxNode → List SyntaxNode
  | node kind start missing hasError children =>
      node kind start missing hasError children :: preorderIn children

/-- The nodes of siblings in the order of the source. -/
def preorderIn : List SyntaxNode → List SyntaxNode
  | [] => []
  | child :: rest => preorder child ++ preorderIn rest

end

theorem mem_preorder_self (tree : SyntaxNode) : tree ∈ tree.preorder := by
  obtain ⟨kind, start, missing, hasError, children⟩ := tree
  rw [preorder]
  exact List.mem_cons_self

/-! ## What is left of a tree -/

/-- The node says that it is missing or that an error is inside it. -/
def isFlagged (tree : SyntaxNode) : Bool :=
  tree.hasError || tree.isMissing

mutual

/-- The tree without the nodes below the root that say nothing of an error, and without
all that is inside them. -/
def pruned : SyntaxNode → SyntaxNode
  | node kind start missing hasError children =>
      node kind start missing hasError (prunedIn children)

/-- The siblings that say something of an error, each of them pruned. -/
def prunedIn : List SyntaxNode → List SyntaxNode
  | [] => []
  | child :: rest => if child.isFlagged then pruned child :: prunedIn rest else prunedIn rest

end

mutual

/-- The nodes that pruning leaves, each with all that is inside it in the whole tree. -/
def remaining : SyntaxNode → List SyntaxNode
  | node kind start missing hasError children =>
      node kind start missing hasError children :: remainingIn children

def remainingIn : List SyntaxNode → List SyntaxNode
  | [] => []
  | child :: rest =>
      if child.isFlagged then remaining child ++ remainingIn rest else remainingIn rest

end

@[simp] theorem isFault_pruned (tree : SyntaxNode) : tree.pruned.isFault = tree.isFault := by
  obtain ⟨kind, start, missing, hasError, children⟩ := tree
  rfl

mutual

theorem map_pruned_remaining (tree : SyntaxNode) :
    tree.remaining.map pruned = tree.pruned.preorder := by
  obtain ⟨kind, start, missing, hasError, children⟩ := tree
  rw [remaining, List.map_cons, pruned, preorder, map_pruned_remainingIn children]

private theorem map_pruned_remainingIn (trees : List SyntaxNode) :
    (remainingIn trees).map pruned = preorderIn (prunedIn trees) := by
  cases trees with
  | nil => rfl
  | cons child rest =>
      rw [remainingIn, prunedIn]
      split
      · rw [List.map_append, preorderIn, map_pruned_remaining child, map_pruned_remainingIn rest]
      · exact map_pruned_remainingIn rest

end

mutual

theorem remaining_sublist (tree : SyntaxNode) : tree.remaining.Sublist tree.preorder := by
  obtain ⟨kind, start, missing, hasError, children⟩ := tree
  rw [remaining, preorder]
  exact (remainingIn_sublist children).cons_cons _

private theorem remainingIn_sublist (trees : List SyntaxNode) :
    (remainingIn trees).Sublist (preorderIn trees) := by
  cases trees with
  | nil => exact List.Sublist.refl _
  | cons child rest =>
      rw [remainingIn, preorderIn]
      split
      · exact (remaining_sublist child).append (remainingIn_sublist rest)
      · exact (remainingIn_sublist rest).trans (List.sublist_append_right _ _)

end

/-! ## The search -/

mutual

private theorem firstFault?_eq_find? (tree : SyntaxNode) :
    tree.firstFault? = tree.remaining.find? isFault := by
  obtain ⟨kind, start, missing, hasError, children⟩ := tree
  have here : isFault (node kind start missing hasError children) = (kind == "ERROR" || missing) :=
    rfl
  rw [firstFault?, remaining, List.find?_cons, here]
  cases kind == "ERROR" || missing with
  | true => rfl
  | false => exact firstFaultIn?_eq_find? children

private theorem firstFaultIn?_eq_find? (trees : List SyntaxNode) :
    firstFaultIn? trees = (remainingIn trees).find? isFault := by
  cases trees with
  | nil => rfl
  | cons child rest =>
      have inRest := firstFaultIn?_eq_find? rest
      rw [firstFaultIn?, remainingIn, isFlagged]
      split
      · rw [List.find?_append, ← firstFault?_eq_find? child, inRest]
        cases child.firstFault? <;> rfl
      · exact inRest

end

/-- No node that is left is an error iff no node of the pruned tree is. -/
theorem firstFault?_eq_none_iff {tree : SyntaxNode} :
    tree.firstFault? = none ↔ ∀ inner ∈ tree.pruned.preorder, inner.isFault = false := by
  simp [firstFault?_eq_find?, ← map_pruned_remaining]

/-! ## Trees that tell the truth -/

/-- Every node says that an error is inside it exactly if it is an error or holds one. -/
def AreTruthful (nodes : List SyntaxNode) : Prop :=
  ∀ outer ∈ nodes, outer.hasError = true ↔ ∃ inner ∈ outer.preorder, inner.isFault = true

instance (nodes : List SyntaxNode) : Decidable (AreTruthful nodes) :=
  inferInstanceAs (Decidable (∀ outer ∈ nodes, _ ↔ _))

/-- What says nothing of an error holds none. -/
theorem find?_preorder_eq_none {tree : SyntaxNode} (truthful : AreTruthful tree.preorder)
    (unflagged : tree.isFlagged = false) : tree.preorder.find? isFault = none := by
  rw [isFlagged, Bool.or_eq_false_iff] at unflagged
  rw [List.find?_eq_none]
  intro inner member isFault
  have flagged := (truthful tree tree.mem_preorder_self).mpr ⟨inner, member, isFault⟩
  rw [unflagged.1] at flagged
  cases flagged

mutual

private theorem find?_remaining (tree : SyntaxNode) (truthful : AreTruthful tree.preorder) :
    tree.remaining.find? isFault = tree.preorder.find? isFault := by
  obtain ⟨kind, start, missing, hasError, children⟩ := tree
  rw [preorder] at truthful
  rw [remaining, preorder, List.find?_cons, List.find?_cons,
    find?_remainingIn children (List.forall_mem_cons.mp truthful).2]

private theorem find?_remainingIn (trees : List SyntaxNode)
    (truthful : AreTruthful (preorderIn trees)) :
    (remainingIn trees).find? isFault = (preorderIn trees).find? isFault := by
  cases trees with
  | nil => rfl
  | cons child rest =>
      rw [preorderIn] at truthful
      obtain ⟨inChild, inRest⟩ := List.forall_mem_append.mp truthful
      have same := find?_remainingIn rest inRest
      rw [remainingIn, preorderIn, List.find?_append]
      split
      · rw [List.find?_append, find?_remaining child inChild, same]
      next unflagged =>
        rw [find?_preorder_eq_none inChild (by simpa using unflagged), same]
        rfl

end

/-! ## The complaint -/

/-- The wording of a complaint about an error: what it is, and its place. -/
def wording (found : SyntaxNode) : String :=
  (if found.isMissing then "missing " ++ found.kind else "syntax error") ++
    (" at line " ++ toString (found.start.row + 1) ++
      ", column " ++ toString (found.start.column + 1))

private theorem message_complaint_of_some {tree found : SyntaxNode}
    (isFirst : tree.firstFault? = some found) :
    tree.complaint.message = found.wording := by
  rw [complaint, isFirst, wording]
  dsimp only
  cases found.isMissing <;> rfl

theorem wording_ne (found : SyntaxNode) : found.wording ≠ "syntax error" := by
  intro same
  have characters := congrArg String.toList same
  rw [wording, String.toList_append] at characters
  split at characters
  · rw [String.toList_append] at characters
    cases (List.cons.inj characters).1
  · have shorter := congrArg List.length characters
    simp at shorter

/-- The bare complaint is about trees in which the search finds nothing. -/
theorem message_complaint_eq_iff {tree : SyntaxNode} :
    tree.complaint.message = "syntax error" ↔ tree.firstFault? = none := by
  constructor
  · intro bare
    cases isFirst : tree.firstFault? with
    | none => rfl
    | some found =>
        rw [message_complaint_of_some isFirst] at bare
        exact absurd bare found.wording_ne
  · intro unfound
    rw [complaint, unfound]
    rfl

/-- The search finds the first error of the pruned tree.  For every tree, whatever its
nodes say: the nodes that pruning leaves are the nodes of the pruned tree in their order,
the search finds the first of them that is an error or missing, the complaint names what
was found with its row and column counted from one, and it is the bare one exactly if the
pruned tree has no error.  If the nodes tell the truth, all this holds of the whole tree. -/
theorem firstFault?_exact (tree : SyntaxNode) :
    tree.remaining.Sublist tree.preorder ∧
    tree.remaining.map pruned = tree.pruned.preorder ∧
    tree.firstFault? = tree.remaining.find? isFault ∧
    (∀ found, tree.firstFault? = some found →
      tree.complaint.message =
        (if found.isMissing then "missing " ++ found.kind else "syntax error") ++
          (" at line " ++ toString (found.start.row + 1) ++
            ", column " ++ toString (found.start.column + 1))) ∧
    (tree.complaint.message = "syntax error" ↔
      ∀ inner ∈ tree.pruned.preorder, inner.isFault = false) ∧
    (AreTruthful tree.preorder →
      tree.firstFault? = tree.preorder.find? isFault ∧
      (tree.complaint.message = "syntax error" ↔
        ∀ inner ∈ tree.preorder, inner.isFault = false)) := by
  refine ⟨tree.remaining_sublist, tree.map_pruned_remaining, tree.firstFault?_eq_find?,
    fun found => message_complaint_of_some,
    message_complaint_eq_iff.trans firstFault?_eq_none_iff, ?_⟩
  intro truthful
  have first : tree.firstFault? = tree.preorder.find? isFault := by
    rw [firstFault?_eq_find?, find?_remaining tree truthful]
  refine ⟨first, message_complaint_eq_iff.trans ?_⟩
  rw [first, List.find?_eq_none]
  simp

/-- A comment, a function whose parameters are not closed, and something that cannot be
read behind it. -/
def unclosedFile : SyntaxNode :=
  node "source_file" .origin false true
    [ node "comment" .origin false false [],
      node "function_declaration" ⟨2, 0⟩ false true
        [ node "func" ⟨2, 0⟩ false false [],
          node "parameter_list" ⟨2, 8⟩ false true
            [node "(" ⟨2, 8⟩ false false [], node ")" ⟨2, 14⟩ true true []] ],
      node "ERROR" ⟨4, 0⟩ false true [] ]

theorem unclosedFile_complaint :
    AreTruthful unclosedFile.preorder ∧
      unclosedFile.firstFault? = unclosedFile.preorder.find? isFault ∧
      unclosedFile.complaint.message = "missing ) at line 3, column 15" := by
  obtain ⟨-, -, -, named, -, whole⟩ := firstFault?_exact unclosedFile
  have truthful : AreTruthful unclosedFile.preorder := by decide
  exact ⟨truthful, (whole truthful).1, named (node ")" ⟨2, 14⟩ true true []) rfl⟩

/-- A missing token inside a comment that says nothing of it, and a call that says that an
error is inside it without one. -/
example :
    (node "source_file" .origin false true
      [ node "comment" .origin false false [node ")" .origin true true []],
        node "call_expression" ⟨1, 0⟩ false true [] ]).complaint = .unlocated := by
  decide

end AddonBindings.Go.SyntaxNode
