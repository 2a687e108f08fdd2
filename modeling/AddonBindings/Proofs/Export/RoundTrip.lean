import AddonBindings.Export.Extraction
import AddonBindings.Proofs.Boundary.Classification
import AddonBindings.Proofs.Export.NormalForm
import AddonBindings.Proofs.Go.PrintedReading

/-!
Contract: extraction gives back the functions that a source is printed from.

Owns:
- the records of printed functions, with the lines on which they are declared;
- the comments above a printed function, what they mark and what they document;
- the law that extraction undoes printing.

Does not own: reading the tokens of a printed source, which is in
`AddonBindings.Proofs.Go.PrintedReading`.
-/

namespace AddonBindings.Go

/-! ## Records of printed functions -/

def CarriedType.boundary : CarriedType → BoundaryType
  | charPointer => .text
  | _ => .numeric

def ParameterSpec.record (parameter : ParameterSpec) : Parameter :=
  ⟨parameter.name.text, some parameter.type.boundary⟩

namespace FunctionSpec

def record (file : String) (line : Nat) (function : FunctionSpec) : ExportedFunction where
  name := function.name.text
  parameters := function.parameters.map ParameterSpec.record
  result := function.result.map CarriedType.boundary
  documentation := String.intercalate "\n" (function.documentation.map DocumentationLine.text)
  sourceFile := file
  line := line

/-- The records of functions that are printed one after the other behind so many lines.
The last line of a function declares it. -/
def recordsAfter (file : String) (before : Nat) : List FunctionSpec → List ExportedFunction
  | [] => []
  | function :: rest =>
      let line := before + function.lines.length
      function.record file line :: recordsAfter file line rest

/-- The records of the functions of a printed source, whose first line is the package clause. -/
def records (file : String) (functions : List FunctionSpec) : List ExportedFunction :=
  recordsAfter file 1 functions

theorem length_lines (function : FunctionSpec) :
    function.lines.length = function.comments.length + 2 := by
  rw [lines, List.length_cons, List.length_append]
  rfl

/-- The line of a record is the line of the source that declares the function. -/
theorem line_recordsAfter (file : String) (before : List String) (functions : List FunctionSpec) :
    List.Forall₂ (fun function record =>
        (before ++ functions.flatMap lines)[record.line.toNat - 1]? =
          some function.declarationText)
      functions (recordsAfter file before.length functions) := by
  induction functions generalizing before with
  | nil => exact .nil
  | cons function rest inductionHypothesis =>
      rw [List.flatMap_cons, recordsAfter]
      refine .cons ?_ ?_
      · have isLast : (before.length + function.lines.length : Int).toNat - 1 =
            (before ++ "" :: function.comments).length := by
          rw [length_lines, List.length_append, List.length_cons]
          omega
        rw [record, Int.natCast_add, isLast, lines, ← List.append_assoc]
        simp
      · have others := inductionHypothesis (before ++ function.lines)
        rwa [List.append_assoc, List.length_append] at others

end FunctionSpec

end AddonBindings.Go

namespace AddonBindings.Export

open Go

/-! ## Signatures -/

private theorem boundaryType_eq_ok {type : TypeSyntax} {carried : CarriedType}
    (same : type.expression = carried.expression) : boundaryType type = .ok carried.boundary := by
  rw [boundaryType, same]
  cases carried <;> rfl

private theorem parametersAfter_eq_ok {items : List ParameterItem} {parameters : List ParameterSpec}
    (areItems : List.Forall₂ IsItemOf items parameters) (before : Nat) :
    parametersAfter before items = .ok (parameters.map ParameterSpec.record) := by
  induction areItems generalizing before with
  | nil => rfl
  | cons isItem _ inductionHypothesis =>
      obtain ⟨type, rfl, same⟩ := isItem
      rw [parametersAfter, boundaryType_eq_ok same]
      dsimp only [bind, Except.bind]
      rw [inductionHypothesis]
      rfl

private theorem result_eq_ok {given : ResultSyntax} {carried : Option CarriedType}
    (isResult : IsResultOf given carried) :
    result given = .ok (carried.map CarriedType.boundary) := by
  cases given with
  | absent =>
      cases carried with
      | none => rfl
      | some type => cases isResult
  | single type =>
      cases carried with
      | none => cases isResult
      | some carried =>
          rw [result, boundaryType_eq_ok isResult]
          rfl
  | listed items => cases carried <;> cases isResult

private theorem signature_eq_ok {declaration : FunctionDeclaration} {function : FunctionSpec}
    (isDeclaration : IsDeclarationOf declaration function) :
    signature declaration =
      .ok (function.parameters.map ParameterSpec.record,
        function.result.map CarriedType.boundary) := by
  rw [signature, parameters, parametersAfter_eq_ok isDeclaration.parameters,
    result_eq_ok isDeclaration.result]
  rfl

/-! ## Comments -/

private theorem isTrimmed_line (line : DocumentationLine) : Text.IsTrimmed line.text.toList := by
  have trimmed := congrArg String.toList line.trimmed
  rw [Text.trim, String.toList_ofList] at trimmed
  exact Text.trimChars_eq_self_iff.mp trimmed

private theorem toList_ne_nil (line : DocumentationLine) : line.text.toList ≠ [] :=
  fun isEmpty => line.filled (String.toList_eq_nil_iff.mp isEmpty)

private theorem documentationLines_line (line : DocumentationLine) :
    documentationLines ("// " ++ line.text) = [line.text.toList] := by
  have printed := documentationLines_printed (toList_ne_nil line) (isTrimmed_line line)
  rwa [String.ofList_toList] at printed

private theorem isExportMarker_marker (name : FreeName) :
    isExportMarker ("//export " ++ name.text) = true := by
  have trimmed : Text.trimChars ("//export " ++ name.text).toList =
      ("//export " ++ name.text).toList := by
    have isName := name.isName
    rw [String.toList_append]
    exact ((TypeExpression.isTrimmed_of_isAsciiName isName).cons rfl
      (TypeExpression.ne_nil_of_isAsciiName isName) "/export ".toList).trimChars_eq
  rw [isExportMarker, trimmed, String.toList_append]
  exact List.isPrefixOf_iff_prefix.mpr (List.prefix_append _ _)

private theorem isMarked_of_map_text {comments : List Comment} {function : FunctionSpec}
    (texts : comments.map Comment.text = function.comments) : isMarked comments = true := by
  have marker : "//export " ++ function.name.text ∈ comments.map Comment.text := by
    rw [texts]
    exact List.mem_append_right _ (List.mem_singleton_self _)
  obtain ⟨comment, member, isMarker⟩ := List.mem_map.mp marker
  refine List.any_eq_true.mpr ⟨comment, member, ?_⟩
  rw [isMarker]
  exact isExportMarker_marker function.name

private theorem documentation_comments (function : FunctionSpec) :
    documentation function.comments =
      String.intercalate "\n" (function.documentation.map DocumentationLine.text) := by
  have noLines : documentationLines ("//export " ++ function.name.text) = [] := by
    rw [documentationLines, isExportMarker_marker, if_pos rfl]
  have lines (shown : List DocumentationLine) :
      ((shown.map fun line => "// " ++ line.text).flatMap documentationLines).map String.ofList =
        shown.map DocumentationLine.text := by
    induction shown with
    | nil => rfl
    | cons line rest inductionHypothesis =>
        rw [List.map_cons, List.flatMap_cons, documentationLines_line, List.map_append,
          inductionHypothesis, List.map_cons, List.map_nil, String.ofList_toList]
        rfl
  rw [documentation, FunctionSpec.comments, List.flatMap_append, List.flatMap_singleton, noLines,
    List.append_nil, lines]

/-! ## Attachment -/

private theorem map_text_of_areOnRows {row : Nat} {texts : List String} {comments : List Comment}
    (onRows : AreOnRows row texts comments) : comments.map Comment.text = texts := by
  induction onRows with
  | nil => rfl
  | cons same _ _ _ inductionHypothesis => rw [List.map_cons, same, inductionHypothesis]

private theorem attachedAfter_cons {row last : Nat} {texts : List String} {comments : List Comment}
    (onRows : AreOnRows row texts comments) {newest : Comment} {older : List Comment} {node : Node}
    (newestRow : newest.stop.row + 1 = row) (behind : last < row)
    (nodeRow : node.start.row = row + texts.length) (children : List RootChild) :
    attachedAfter ⟨newest :: older, some last⟩ (comments.map .comment ++ .node node :: children) =
      (node, (newest :: older).reverse ++ comments) ::
        attachedAfter ⟨[], some node.stop.row⟩ children := by
  induction onRows generalizing newest older with
  | nil =>
      have isAbove : newest.stop.row + 1 = node.start.row := newestRow.trans nodeRow.symm
      simp [attachedAfter, Gathering.attachedTo, Gathering.addNode, isAbove]
  | @cons row comment text texts comments same start stop others inductionHypothesis =>
      have added : Gathering.addComment ⟨newest :: older, some last⟩ comment =
          ⟨comment :: newest :: older, some last⟩ := by
        have ownLine : ¬some last = some comment.start.row := by
          rw [start, Option.some.injEq]
          omega
        have consecutive : ¬newest.stop.row + 1 < comment.start.row := by omega
        rw [Gathering.addComment, if_neg ownLine]
        exact if_neg consecutive
      rw [List.map_cons, List.cons_append, attachedAfter, added,
        inductionHypothesis (by rw [stop]) (Nat.lt_succ_of_lt behind)
          (by rw [nodeRow, List.length_cons]; omega)]
      simp

/-- The comments right above a node belong to it. -/
theorem attachedAfter_comments {row last : Nat} {texts : List String} {comments : List Comment}
    (onRows : AreOnRows row texts comments) (filled : texts ≠ []) {node : Node}
    (behind : last < row) (nodeRow : node.start.row = row + texts.length)
    (children : List RootChild) :
    attachedAfter ⟨[], some last⟩ (comments.map .comment ++ .node node :: children) =
      (node, comments) :: attachedAfter ⟨[], some node.stop.row⟩ children := by
  cases onRows with
  | nil => exact absurd rfl filled
  | @cons _ comment text texts comments same start stop others =>
      have ownLine : ¬some last = some comment.start.row := by
        rw [start, Option.some.injEq]
        omega
      have added : Gathering.addComment ⟨[], some last⟩ comment = ⟨[comment], some last⟩ := by
        rw [Gathering.addComment, if_neg ownLine]
      rw [List.map_cons, List.cons_append, attachedAfter, added,
        attachedAfter_cons others (by rw [stop]) (Nat.lt_succ_of_lt behind)
          (by rw [nodeRow, List.length_cons]; omega)]
      rfl

/-! ## Extraction -/

private theorem recordOfNode_eq_ok {declaration : FunctionDeclaration} {function : FunctionSpec}
    {comments : List Comment} {start stop : Position} (file : String)
    (isDeclaration : IsDeclarationOf declaration function)
    (texts : comments.map Comment.text = function.comments) :
    recordOfNode file ⟨.function declaration, start, stop⟩ comments =
      .ok (some (function.record file (start.row + 1))) := by
  have isRecord : record file declaration comments start =
      .ok (function.record file (start.row + 1)) := by
    rw [record, signature_eq_ok isDeclaration]
    simp [FunctionSpec.record, isDeclaration.name, texts, documentation_comments]
    rfl
  dsimp only [recordOfNode]
  rw [isMarked_of_map_text texts, if_pos rfl, isRecord]
  rfl

private theorem recordsOfAttached_eq_ok {row : Nat} {functions : List FunctionSpec}
    {children : List RootChild} (file : String)
    (areChildren : FunctionSpec.AreChildrenOf row functions children) :
    recordsOfAttached file (attachedAfter ⟨[], some row⟩ children) =
      .ok (FunctionSpec.recordsAfter file (row + 1) functions) := by
  induction areChildren with
  | nil => rfl
  | @cons row function functions comments declaration start stop children onRows startRow stopRow
      isDeclaration others inductionHypothesis =>
      have filled : function.comments ≠ [] :=
        List.append_ne_nil_of_right_ne_nil _ (List.cons_ne_nil _ _)
      have texts := map_text_of_areOnRows onRows
      rw [attachedAfter_comments onRows filled (Nat.lt_add_of_pos_right (by decide)) startRow,
        recordsOfAttached, recordOfNode_eq_ok file isDeclaration texts, stopRow,
        inductionHypothesis, FunctionSpec.recordsAfter, FunctionSpec.length_lines]
      have sameLine : row + 1 + (function.comments.length + 2) =
          row + 2 + function.comments.length + 1 := by omega
      rw [sameLine, startRow]
      rfl

/-- Extraction undoes printing. -/
theorem ofSource_sourceText (file : String) (functions : List FunctionSpec) :
    ofSource file (FunctionSpec.sourceText functions) =
      .ok (FunctionSpec.records file functions) := by
  obtain ⟨start, stop, children, read, stopRow, areChildren⟩ :=
    FunctionSpec.readSource_sourceText functions
  have records := recordsOfAttached_eq_ok file areChildren
  rw [ofSource, read]
  dsimp only
  rw [ofChildren, attached, attachedAfter, Gathering.addNode, stopRow, recordsOfAttached, records]
  rfl

/-- A line of documentation may look like a marker. -/
example :
    FunctionSpec.sourceText
        [ { name := ⟨"Greet", rfl, by decide⟩
            parameters :=
              [⟨⟨"name", rfl, by decide⟩, .charPointer⟩, ⟨⟨"times", rfl, by decide⟩, .int⟩]
            result := some .float64
            documentation := [⟨"//export Other", by decide, by decide, by decide⟩] } ] =
      "package main\n\n// //export Other\n//export Greet\n" ++
        "func Greet(name *C.char, times int) float64 \x7b\x7d\n" := by
  decide

end AddonBindings.Export
