import AddonBindings.Export.Extraction
import AddonBindings.Proofs.Export.Attachment
import AddonBindings.Proofs.Export.Signature
import AddonBindings.Proofs.Go.Reading
import Mathlib.Data.List.Pairwise

/-!
Contract: extraction is exact.

Owns:
- the marked functions of a file, in order, each below the one before;
- extraction as a traversal of the marked functions;
- the capstone: when extraction succeeds, what it then gives, and why it fails
  otherwise.

Does not own: attachment of comments and mapping of signatures, which are in
`AddonBindings.Proofs.Export.Attachment` and `AddonBindings.Proofs.Export.Signature`.
-/

namespace AddonBindings.Export

open AddonBindings.Go AddonBindings.Traversal

/-! ## Marked functions -/

/-- A function that is marked as exported, with its comments and its place. -/
structure MarkedFunction where
  declaration : FunctionDeclaration
  comments : List Comment
  start : Position
deriving DecidableEq, Repr

/-- The node as a marked function, if it is a function and a comment above it is a
marker. -/
def markedFunction? (node : Node) (comments : List Comment) : Option MarkedFunction :=
  match node.content with
  | .other => none
  | .function declaration =>
      if isMarked comments then some ⟨declaration, comments, node.start⟩ else none

/-- The marked functions of a file, in source order. -/
def markedFunctions (children : List RootChild) : List MarkedFunction :=
  (nodesAfter [] children).filterMap fun placed =>
    markedFunction? placed.2 (commentsAbove placed.1 placed.2)

/-- The node after `before` is a function, and a comment above it is a marker. -/
def IsExported (before : List RootChild) (node : Node) : Prop :=
  (∃ declaration, node.content = .function declaration) ∧
    ∃ comment ∈ commentsAbove before node, isExportMarker comment.text = true

private theorem isMarked_iff {comments : List Comment} :
    isMarked comments = true ↔ ∃ comment ∈ comments, isExportMarker comment.text = true :=
  List.any_eq_true

private theorem markedFunction?_eq_some_iff {node : Node} {comments : List Comment}
    {marked : MarkedFunction} :
    markedFunction? node comments = some marked ↔
      node.content = .function marked.declaration ∧ marked.comments = comments ∧
        marked.start = node.start ∧ isMarked comments = true := by
  rw [markedFunction?]
  cases node.content with
  | other => simp
  | function declaration =>
      by_cases isMark : isMarked comments = true
      · simp only [if_pos isMark, Option.some.injEq, NodeContent.function.injEq]
        constructor
        · rintro rfl
          exact ⟨rfl, rfl, rfl, isMark⟩
        · rintro ⟨rfl, rfl, start, -⟩
          rw [← start]
      · simp [isMark]

private theorem markedFunction?_eq_none {before : List RootChild} {node : Node}
    (unexported : ¬ IsExported before node) :
    markedFunction? node (commentsAbove before node) = none := by
  rw [Option.eq_none_iff_forall_ne_some]
  intro marked isMarked
  obtain ⟨isFunction, -, -, isMark⟩ := markedFunction?_eq_some_iff.mp isMarked
  exact unexported ⟨⟨_, isFunction⟩, isMarked_iff.mp isMark⟩

/-- The marked functions are the functions of the file with a marker above them. -/
theorem mem_markedFunctions_iff {children : List RootChild} {marked : MarkedFunction} :
    marked ∈ markedFunctions children ↔
      ∃ before node later, children = before ++ .node node :: later ∧
        node.content = .function marked.declaration ∧
        marked.comments = commentsAbove before node ∧ marked.start = node.start ∧
        ∃ comment ∈ marked.comments, isExportMarker comment.text = true := by
  rw [markedFunctions, List.mem_filterMap]
  constructor
  · rintro ⟨⟨before, node⟩, placed, found⟩
    obtain ⟨later, split⟩ := mem_nodesAfter_nil_iff.mp placed
    obtain ⟨isFunction, comments, start, isMark⟩ := markedFunction?_eq_some_iff.mp found
    refine ⟨before, node, later, split, isFunction, comments, start, ?_⟩
    rw [comments]
    exact isMarked_iff.mp isMark
  · rintro ⟨before, node, later, split, isFunction, comments, start, isMark⟩
    refine ⟨(before, node), mem_nodesAfter_nil_iff.mpr ⟨later, split⟩, ?_⟩
    rw [comments] at isMark
    exact markedFunction?_eq_some_iff.mpr ⟨isFunction, comments, start, isMarked_iff.mpr isMark⟩

theorem exists_node_of_mem_markedFunctions {children : List RootChild} {marked : MarkedFunction}
    (isMarked : marked ∈ markedFunctions children) :
    ∃ node, .node node ∈ children ∧ node.content = .function marked.declaration := by
  obtain ⟨before, node, later, split, isFunction, -⟩ := mem_markedFunctions_iff.mp isMarked
  exact ⟨node, by simp [split], isFunction⟩

/-- Of two marked functions, the later one starts on a later row. -/
theorem markedFunctions_pairwise {children : List RootChild} (inOrder : InSourceOrder children) :
    (markedFunctions children).Pairwise fun earlier later => earlier.start.row < later.start.row := by
  rw [markedFunctions, List.pairwise_filterMap]
  refine (nodesAfter_pairwise [] children).imp_of_mem ?_
  rintro ⟨_, earlierNode⟩ ⟨before, node⟩ - placed isBefore earlier isEarlier later isLater
  obtain ⟨rest, rfl⟩ := mem_nodesAfter_nil_iff.mp placed
  obtain ⟨-, -, earlierStart, -⟩ := markedFunction?_eq_some_iff.mp isEarlier
  obtain ⟨-, -, start, isMark⟩ := markedFunction?_eq_some_iff.mp isLater
  obtain ⟨comment, above, -⟩ := isMarked_iff.mp isMark
  rw [earlierStart, start]
  exact start_row_lt_of_mem_commentsAbove inOrder above isBefore

/-! ## Extraction as a traversal -/

def MarkedFunction.record (file : String) (marked : MarkedFunction) :
    Except GenerationFault ExportedFunction :=
  Export.record file marked.declaration marked.comments marked.start

private theorem recordOfNode_eq (file : String) (node : Node) (comments : List Comment) :
    recordOfNode file node comments =
      match markedFunction? node comments with
      | none => .ok none
      | some marked => (marked.record file).map some := by
  rw [recordOfNode, markedFunction?]
  cases node.content with
  | other => rfl
  | function declaration =>
      by_cases isMark : isMarked comments = true
      · simp only [if_pos isMark]
        rfl
      · simp only [if_neg isMark]

private theorem recordsOfAttached_eq_mapM (file : String) (attached : List (Node × List Comment)) :
    recordsOfAttached file attached =
      (attached.filterMap fun entry => markedFunction? entry.1 entry.2).mapM
        (MarkedFunction.record file) := by
  induction attached with
  | nil => rfl
  | cons entry rest inductionHypothesis =>
      obtain ⟨node, comments⟩ := entry
      rw [recordsOfAttached, recordOfNode_eq, inductionHypothesis, List.filterMap_cons]
      cases markedFunction? node comments with
      | none =>
          dsimp only
          cases (rest.filterMap _).mapM (MarkedFunction.record file) with
          | error fault => rfl
          | ok functions => rfl
      | some marked =>
          dsimp only
          rw [List.mapM_cons]
          cases marked.record file with
          | error fault => rfl
          | ok function => rfl

private theorem markedFunctions_eq (children : List RootChild) :
    markedFunctions children =
      (attached children).filterMap fun entry => markedFunction? entry.1 entry.2 := by
  rw [attached_eq, List.filterMap_map]
  rfl

/-- Extraction only looks at the marked functions. -/
theorem ofChildren_eq_mapM (file : String) (children : List RootChild) :
    ofChildren file children = (markedFunctions children).mapM (MarkedFunction.record file) := by
  rw [ofChildren, recordsOfAttached_eq_mapM, markedFunctions_eq]

/-- A node that is not exported can be any other such node in its place. -/
theorem markedFunctions_congr {before later : List RootChild} {node changed : Node}
    (stop : changed.stop = node.stop) (unexported : ¬ IsExported before node)
    (stillUnexported : ¬ IsExported before changed) :
    markedFunctions (before ++ .node changed :: later) =
      markedFunctions (before ++ .node node :: later) := by
  have front : markedFunction? changed (commentsAbove before changed) =
      markedFunction? node (commentsAbove before node) := by
    rw [markedFunction?_eq_none unexported, markedFunction?_eq_none stillUnexported]
  -- behind the node, only the row on which it ends is remembered
  have back : (gatheringOf before).addNode changed = (gatheringOf before).addNode node := by
    rw [Gathering.addNode, Gathering.addNode, stop]
  rw [markedFunctions_eq, markedFunctions_eq, attached_append_node, attached_append_node,
    List.filterMap_append, List.filterMap_append, List.filterMap_cons, List.filterMap_cons,
    front, back]

/-! ## Records and refusals -/

structure IsRecordOf (file : String) (marked : MarkedFunction) (function : ExportedFunction) :
    Prop where
  name : function.name = marked.declaration.name
  sourceFile : function.sourceFile = file
  /-- Lines are counted from one. -/
  line : function.line = marked.start.row + 1
  signature : Export.signature marked.declaration = .ok (function.parameters, function.result)
  documentation : function.documentation = Export.documentation (marked.comments.map Comment.text)

def MarkedFunction.fault? (file : String) (marked : MarkedFunction) : Option GenerationFault :=
  marked.declaration.refusal?.map fun refusal =>
    ⟨refusal.toProblem, some file, some marked.declaration.name⟩

theorem MarkedFunction.fault?_eq_none_iff {file : String} {marked : MarkedFunction} :
    marked.fault? file = none ↔ marked.declaration.IsSupported := by
  rw [MarkedFunction.fault?, Option.map_eq_none_iff, FunctionDeclaration.refusal?_eq_none_iff]

theorem fault?_record (file : String) (marked : MarkedFunction) :
    Traversal.fault? (marked.record file) = marked.fault? file := by
  rw [MarkedFunction.record, Export.record, fault?_bind none (fun _ => rfl),
    Option.or_none, fault?_mapError, fault?_signature, MarkedFunction.fault?]

theorem isRecordOf_of_record {file : String} {marked : MarkedFunction}
    {function : ExportedFunction} (recorded : marked.record file = .ok function) :
    IsRecordOf file marked function := by
  rw [MarkedFunction.record, Export.record] at recorded
  cases mapped : signature marked.declaration with
  | error fault =>
      rw [mapped] at recorded
      cases recorded
  | ok types =>
      rw [mapped] at recorded
      cases recorded
      exact ⟨rfl, rfl, rfl, mapped, rfl⟩

/-- Extraction fails as the first refused function. -/
theorem fault?_ofChildren (file : String) (children : List RootChild) :
    Traversal.fault? (ofChildren file children) =
      (markedFunctions children).findSome? (MarkedFunction.fault? file) := by
  rw [ofChildren_eq_mapM, fault?_mapM]
  exact congrArg (fun find => (markedFunctions children).findSome? find)
    (funext (fault?_record file))

theorem forall₂_isRecordOf {file : String} {children : List RootChild}
    {functions : List ExportedFunction} (extracted : ofChildren file children = .ok functions) :
    List.Forall₂ (IsRecordOf file) (markedFunctions children) functions := by
  rw [ofChildren_eq_mapM, mapM_eq_ok_iff_forall₂] at extracted
  exact extracted.imp fun marked function recorded => isRecordOf_of_record recorded

private theorem map_line_eq {file : String} {marked : List MarkedFunction}
    {functions : List ExportedFunction} (records : List.Forall₂ (IsRecordOf file) marked functions) :
    functions.map ExportedFunction.line = marked.map fun entry => (entry.start.row + 1 : Int) := by
  induction records with
  | nil => rfl
  | cons isRecord _ inductionHypothesis =>
      rw [List.map_cons, List.map_cons, isRecord.line, inductionHypothesis]

/-- **Extraction is exact.**  It succeeds iff the marked functions are supported.  It
then gives the record of each of them, in source order and on ever later lines.  It
fails with the refusal of the first unsupported one, under the name of the file and of
the function.  Any other node can be exchanged for a node that is not exported either. -/
theorem ofChildren_exact (file : String) {children : List RootChild}
    (inOrder : InSourceOrder children) :
    ((∃ functions, ofChildren file children = .ok functions) ↔
      ∀ marked ∈ markedFunctions children, marked.declaration.IsSupported) ∧
    (∀ functions, ofChildren file children = .ok functions →
      List.Forall₂ (IsRecordOf file) (markedFunctions children) functions ∧
        (functions.map ExportedFunction.line).Pairwise (· < ·)) ∧
    (∀ fault, ofChildren file children = .error fault →
      ∃ earlier offending later refusal,
        markedFunctions children = earlier ++ offending :: later ∧
        (∀ marked ∈ earlier, marked.declaration.IsSupported) ∧
        offending.declaration.refusal? = some refusal ∧
        fault = ⟨refusal.toProblem, some file, some offending.declaration.name⟩) ∧
    (∀ before node changed later, children = before ++ .node node :: later →
      ¬ IsExported before node → ¬ IsExported before changed →
      changed.stop = node.stop →
      ofChildren file (before ++ .node changed :: later) = ofChildren file children) ∧
    ∀ source, readSource source = .ok children →
      ofSource file source = ofChildren file children := by
  refine ⟨?_, ?_, ?_, ?_, ?_⟩
  · rw [← Traversal.fault?_eq_none_iff, fault?_ofChildren, List.findSome?_eq_none_iff]
    exact forall₂_congr fun marked _ => MarkedFunction.fault?_eq_none_iff
  · intro functions extracted
    have records := forall₂_isRecordOf extracted
    refine ⟨records, ?_⟩
    rw [map_line_eq records, List.pairwise_map]
    refine (markedFunctions_pairwise inOrder).imp ?_
    intro earlier later below
    omega
  · intro fault failed
    rw [← Traversal.fault?_eq_some_iff, fault?_ofChildren, List.findSome?_eq_some_iff] at failed
    obtain ⟨earlier, offending, later, split, refused, supported⟩ := failed
    obtain ⟨refusal, isRefusal, rfl⟩ := Option.map_eq_some_iff.mp refused
    refine ⟨earlier, offending, later, refusal, split, ?_, isRefusal, rfl⟩
    intro marked member
    exact MarkedFunction.fault?_eq_none_iff.mp (supported marked member)
  · rintro before node changed later rfl unexported stillUnexported stop
    rw [ofChildren_eq_mapM, ofChildren_eq_mapM,
      markedFunctions_congr stop unexported stillUnexported]
  · intro source read
    rw [ofSource, read]

/-- Two functions to extract, a marker behind code, and a function and a method that
are not extracted. -/
def sampleSource : String :=
  "func Keep(c chan int) {} //export Keep\n//export Add\nfunc Add(a, b int) int {}\n" ++
  "//export Old\nfunc (t T) Old(c chan int) {}\n//export Name\nfunc Name() *C.char {}\n"

theorem sampleSource_extracted :
    ∃ children functions,
      readSource sampleSource = .ok children ∧ InSourceOrder children ∧
      (markedFunctions children).map (·.declaration.name) = ["Add", "Name"] ∧
      ofChildren "sample.go" children = .ok functions ∧
      List.Forall₂ (IsRecordOf "sample.go") (markedFunctions children) functions ∧
      (functions.map ExportedFunction.line).Pairwise (· < ·) := by
  have evaluated : (readSource sampleSource).toOption.map (fun children =>
      (markedFunctions children).map fun marked =>
        (marked.declaration.name, marked.declaration.refusal?)) =
      some [("Add", none), ("Name", none)] := by decide +kernel
  cases read : readSource sampleSource with
  | error position =>
      rw [read] at evaluated
      cases evaluated
  | ok children =>
      rw [read] at evaluated
      have pairs := Option.some.inj evaluated
      have names := congrArg (List.map Prod.fst) pairs
      have refusals := congrArg (List.map Prod.snd) pairs
      rw [List.map_map] at names refusals
      have inOrder := inSourceOrder_of_readSource read
      have exactness := ofChildren_exact "sample.go" inOrder
      have supported : ∀ marked ∈ markedFunctions children, marked.declaration.IsSupported := by
        intro marked member
        have isRefusal : marked.declaration.refusal? ∈ [none, none] := by
          rw [← show _ = [none, none] from refusals]
          exact List.mem_map_of_mem member
        rw [← FunctionDeclaration.refusal?_eq_none_iff]
        simpa using isRefusal
      obtain ⟨functions, extracted⟩ := exactness.1.mpr supported
      obtain ⟨records, increasing⟩ := exactness.2.1 functions extracted
      exact ⟨children, functions, rfl, inOrder, names, extracted, records, increasing⟩

end AddonBindings.Export
