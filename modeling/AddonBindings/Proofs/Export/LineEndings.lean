import AddonBindings.Proofs.Go.AlikeChildren
import AddonBindings.Proofs.Run.Documentation

/-!
Contract: extraction does not depend on how lines are ended.

Owns:
- markers and documentation of comments with returns;
- the comments and records of children that are alike;
- the capstone: a source with a return in front of each line feed has the same records.

Does not own: reading such a source, which is in `AddonBindings.Proofs.Go.AlikeChildren`.
-/

namespace AddonBindings.Export

open AddonBindings.Go AddonBindings.Text AddonBindings.Traversal

variable {text other : String} {comments others : List Comment}

/-! ## Comments -/

/-- Blanks at the ends of a comment do not matter. -/
theorem isExportMarker_congr (same : trimChars other.toList = trimChars text.toList) :
    isExportMarker other = isExportMarker text := by
  rw [isExportMarker, isExportMarker, same]

theorem documentationLines_congr (same : trimChars other.toList = trimChars text.toList) :
    documentationLines other = documentationLines text := by
  rw [documentationLines, documentationLines, isExportMarker_congr same, same]

/-- Empty lines of a block are left out anyway. -/
theorem filter_map_bareLine (lines : List (List Char)) :
    ((lines.map bareLine).filter fun line => !line.isEmpty) =
      ((filledLines lines).map bareLine).filter fun line => !line.isEmpty := by
  induction lines with
  | nil => rfl
  | cons line rest inductionHypothesis =>
      cases line with
      | nil => rw [filledLines_nil_cons, ← inductionHypothesis]; rfl
      | cons c others =>
          have kept : filledLines ((c :: others) :: rest) = (c :: others) :: filledLines rest := rfl
          rw [kept, List.map_cons, List.map_cons, List.filter_cons, List.filter_cons,
            inductionHypothesis]

/-- What extraction sees of a comment. -/
def SaysTheSame (text other : String) : Prop :=
  isExportMarker other = isExportMarker text ∧ documentationLines other = documentationLines text

private theorem saysTheSame_commentWithReturns (isComment : IsGoComment text) :
    SaysTheSame text (commentWithReturns text) := by
  cases isComment with
  | line isText inLine =>
      have same : trimChars (commentWithReturns text).toList = trimChars text.toList := by
        rw [commentWithReturns_line isText, String.toList_append]
        exact trimChars_append_right (by decide) text.toList
      exact ⟨isExportMarker_congr same, documentationLines_congr same⟩
  | @block inside isText =>
      have isBlock : (commentWithReturns text).toList =
          '/' :: '*' :: (withReturns inside ++ ['*', '/']) := by
        rw [commentWithReturns_block (by rw [isText]; rintro _ ⟨⟩), String.toList_ofList, isText,
          withReturns_cons (by decide), withReturns_cons (by decide), withReturns_append]
        rfl
      constructor
      · rw [isExportMarker, isExportMarker, isBlock, isText, trimChars_blockComment,
          trimChars_blockComment]
        rfl
      · rw [documentationLines_blockComment isBlock, documentationLines_blockComment isText,
          filter_map_bareLine, filledLines_splitLines_withReturns, ← filter_map_bareLine]

private theorem saysTheSame_of_isCommentLike (isLike : IsCommentLike text other)
    (isComment : IsGoComment text) : SaysTheSame text other := by
  rcases isLike with rfl | rfl
  · exact saysTheSame_commentWithReturns isComment
  · exact ⟨rfl, rfl⟩

/-! ## Groups of comments -/

/-- Comments on the same rows that say the same. -/
structure IsAsGood (comment other : Comment) : Prop where
  content : SaysTheSame comment.text other.text
  start : other.start.row = comment.start.row
  stop : other.stop.row = comment.stop.row

abbrev AreAsGood (comments others : List Comment) : Prop :=
  List.Forall₂ IsAsGood comments others

private theorem isMarked_eq (areAsGood : AreAsGood comments others) :
    isMarked others = isMarked comments := by
  rw [isMarked, isMarked]
  induction areAsGood with
  | nil => rfl
  | cons first _ inductionHypothesis =>
      rw [List.any_cons, List.any_cons, inductionHypothesis, first.content.1]

private theorem documentation_congr {texts others : List String}
    (same : List.Forall₂ SaysTheSame texts others) :
    documentation others = documentation texts := by
  have sameLines : documentationLinesOf others = documentationLinesOf texts := by
    rw [documentationLinesOf, documentationLinesOf]
    induction same with
    | nil => rfl
    | cons first _ inductionHypothesis =>
        rw [List.flatMap_cons, List.flatMap_cons, inductionHypothesis, first.2]
  rw [documentation_eq, documentation_eq, sameLines]

/-- Comments that have been gathered on the same rows. -/
structure Gathering.IsLike (gathering other : Gathering) : Prop where
  newestFirst : AreAsGood gathering.newestFirst other.newestFirst
  lastRow : other.lastRow = gathering.lastRow

namespace Gathering.IsLike

variable {gathering otherGathering : Gathering} {comment otherComment : Comment}
  {node otherNode : Node}

theorem addComment (isLike : gathering.IsLike otherGathering)
    (isAsGood : IsAsGood comment otherComment) :
    (gathering.addComment comment).IsLike (otherGathering.addComment otherComment) := by
  obtain ⟨newestFirst, lastRow⟩ := gathering
  obtain ⟨otherNewestFirst, otherLastRow⟩ := otherGathering
  obtain ⟨areAsGood, sameRow⟩ := isLike
  dsimp only at areAsGood sameRow
  rw [Gathering.addComment, Gathering.addComment]
  dsimp only
  rw [sameRow, isAsGood.start]
  split
  · exact ⟨areAsGood, rfl⟩
  · cases areAsGood with
    | nil => exact ⟨.cons isAsGood .nil, rfl⟩
    | cons newest older =>
        dsimp only
        rw [newest.stop]
        split
        · exact ⟨.cons isAsGood .nil, rfl⟩
        · exact ⟨.cons isAsGood (.cons newest older), rfl⟩

theorem attachedTo (isLike : gathering.IsLike otherGathering)
    (sameRow : otherNode.start.row = node.start.row) :
    AreAsGood (gathering.attachedTo node) (otherGathering.attachedTo otherNode) := by
  have areAsGood := isLike.newestFirst
  rw [Gathering.attachedTo, Gathering.attachedTo]
  generalize gathering.newestFirst = newestFirst, otherGathering.newestFirst = otherNewestFirst
    at areAsGood ⊢
  cases areAsGood with
  | nil => exact .nil
  | cons newest older =>
      dsimp only
      rw [newest.stop, sameRow]
      split
      · exact List.forall₂_reverse_iff.mpr (.cons newest older)
      · exact .nil

end Gathering.IsLike

/-- Nodes that are alike, with comments above them that are as good. -/
structure IsPlacedLike (placed other : Node × List Comment) : Prop where
  node : placed.1.IsLike other.1
  comments : AreAsGood placed.2 other.2

private theorem isPlacedLike_attachedAfter {gathering otherGathering : Gathering}
    {children otherChildren : List RootChild} (isLike : gathering.IsLike otherGathering)
    (areLike : AreChildrenLike children otherChildren)
    (areComments : ∀ comment, .comment comment ∈ children → IsGoComment comment.text) :
    List.Forall₂ IsPlacedLike (attachedAfter gathering children)
      (attachedAfter otherGathering otherChildren) := by
  induction areLike generalizing gathering otherGathering with
  | nil => exact .nil
  | cons first _ inductionHypothesis =>
      have later {gathering otherGathering : Gathering}
          (isLike : gathering.IsLike otherGathering) :=
        inductionHypothesis isLike fun comment member =>
          areComments comment (List.mem_cons_of_mem _ member)
      cases first with
      | comment commentIsLike =>
          have isComment := areComments _ List.mem_cons_self
          exact later (isLike.addComment
            ⟨saysTheSame_of_isCommentLike commentIsLike.text isComment, commentIsLike.start,
              commentIsLike.stop⟩)
      | mark => exact later isLike
      | node nodeIsLike =>
          refine .cons ⟨nodeIsLike, isLike.attachedTo nodeIsLike.start⟩ (later ⟨.nil, ?_⟩)
          rw [Gathering.addNode, Gathering.addNode, nodeIsLike.stop]

/-! ## Signatures -/

private theorem expression_cases {type otherType : TypeSyntax} (isLike : type.IsLike otherType) :
    otherType.expression = type.expression ∨
      ∃ raw otherRaw, type.expression = .other raw ∧ otherType.expression = .other otherRaw := by
  obtain ⟨tokens⟩ := type
  obtain ⟨otherTokens⟩ := otherType
  obtain ⟨areLike⟩ := isLike
  dsimp only at areLike
  -- only types of one token and of four can be anything else than their text
  rcases areLike with _ | ⟨first, _ | ⟨second, _ | ⟨third, _ | ⟨fourth, _ | ⟨fifth, more⟩⟩⟩⟩⟩
  case nil | cons.cons.nil | cons.cons.cons.nil | cons.cons.cons.cons.cons =>
    exact .inr ⟨_, _, rfl, rfl⟩
  case cons.nil =>
    rw [TypeSyntax.expression, TypeSyntax.expression]
    dsimp only
    rw [first.lexeme.kind]
    split
    · rename_i isName
      exact .inl (congrArg _ (first.text (.inl isName)))
    · exact .inr ⟨_, _, rfl, rfl⟩
  case cons.cons.cons.cons.nil =>
    rw [TypeSyntax.expression, TypeSyntax.expression]
    dsimp only
    rw [first.isFixed, second.lexeme.kind, third.isFixed, fourth.lexeme.kind]
    split
    · rename_i isPointer
      simp only [Bool.and_eq_true, decide_eq_true_eq] at isPointer
      obtain ⟨⟨⟨-, isPackage⟩, -⟩, isName⟩ := isPointer
      rw [second.text (.inl isPackage), fourth.text (.inl isName)]
      exact .inl rfl
    · exact .inr ⟨_, _, rfl, rfl⟩

private theorem toOption_boundaryType {type otherType : TypeSyntax}
    (isLike : type.IsLike otherType) :
    (boundaryType otherType).toOption = (boundaryType type).toOption := by
  rw [boundaryType, boundaryType]
  rcases expression_cases isLike with same | ⟨raw, otherRaw, isOther, otherIsOther⟩
  · rw [same]
  · rw [isOther, otherIsOther]
    rfl

private theorem toOption_parametersAfter (before : Nat) {items others : List ParameterItem}
    (areLike : AreItemsLike items others) :
    (parametersAfter before others).toOption = (parametersAfter before items).toOption := by
  induction areLike generalizing before with
  | nil => rfl
  | cons first _ inductionHypothesis =>
      cases first with
      | comment _ => exact inductionHypothesis before
      | variadic _ _ => rfl
      | declared names typeIsLike =>
          have same := toOption_boundaryType typeIsLike
          rw [parametersAfter, parametersAfter, toOption_bind, toOption_bind, same]
          refine Option.bind_congr fun boundary _ => ?_
          dsimp only
          rw [toOption_bind, toOption_bind, inductionHypothesis]

private theorem countResults_eq {items others : List ParameterItem}
    (areLike : AreItemsLike items others) :
    countResults others = countResults items := by
  induction areLike with
  | nil => rfl
  | cons first _ inductionHypothesis =>
      rw [countResults, countResults, inductionHypothesis]
      cases first <;> rfl

private theorem toOption_firstResult {items others : List ParameterItem}
    (areLike : AreItemsLike items others) :
    (firstResult others).toOption = (firstResult items).toOption := by
  induction areLike with
  | nil => rfl
  | cons first _ inductionHypothesis =>
      cases first with
      | comment _ => exact inductionHypothesis
      | variadic _ _ => rfl
      | declared names typeIsLike =>
          rw [firstResult, firstResult, toOption_map, toOption_map,
            toOption_boundaryType typeIsLike]

private theorem toOption_result {result other : ResultSyntax} (isLike : result.IsLike other) :
    (Export.result other).toOption = (Export.result result).toOption := by
  cases isLike with
  | absent => rfl
  | single typeIsLike =>
      rw [Export.result, Export.result, toOption_map, toOption_map,
        toOption_boundaryType typeIsLike]
  | listed areLike =>
      rw [Export.result, Export.result, countResults_eq areLike]
      split
      · rfl
      · exact toOption_firstResult areLike

private theorem toOption_signature {declaration other : FunctionDeclaration}
    (isLike : declaration.IsLike other) :
    (signature other).toOption = (signature declaration).toOption := by
  rw [signature, signature, toOption_bind, toOption_bind, parameters, parameters,
    toOption_parametersAfter 0 isLike.parameters]
  refine Option.bind_congr fun taken _ => ?_
  rw [toOption_bind, toOption_bind, toOption_result isLike.result]

/-! ## Records -/

private theorem documentation_map_text (areAsGood : AreAsGood comments others) :
    documentation (others.map Comment.text) = documentation (comments.map Comment.text) := by
  apply documentation_congr
  rw [List.forall₂_map_left_iff, List.forall₂_map_right_iff]
  exact areAsGood.imp fun _ _ isAsGood => isAsGood.content

private theorem toOption_record (file : String) {declaration other : FunctionDeclaration}
    {start otherStart : Position} (isLike : declaration.IsLike other)
    (areAsGood : AreAsGood comments others) (sameRow : otherStart.row = start.row) :
    (record file other others otherStart).toOption =
      (record file declaration comments start).toOption := by
  rw [record, record, toOption_bind, toOption_bind, toOption_mapError, toOption_mapError,
    toOption_signature isLike, isLike.name, documentation_map_text areAsGood, sameRow]

private theorem toOption_recordOfNode (file : String) {node other : Node}
    (isLike : node.IsLike other)
    (areAsGood : AreAsGood comments others) :
    (recordOfNode file other others).toOption = (recordOfNode file node comments).toOption := by
  rw [recordOfNode, recordOfNode, isMarked_eq areAsGood]
  have contentIsLike := isLike.content
  generalize node.content = content, other.content = otherContent at contentIsLike ⊢
  cases contentIsLike with
  | other => rfl
  | function declarationIsLike =>
      dsimp only
      split
      · rw [toOption_map, toOption_map,
          toOption_record file declarationIsLike areAsGood isLike.start]
      · rfl

private theorem toOption_recordsOfAttached (file : String)
    {attached others : List (Node × List Comment)}
    (areLike : List.Forall₂ IsPlacedLike attached others) :
    (recordsOfAttached file others).toOption = (recordsOfAttached file attached).toOption := by
  induction areLike with
  | nil => rfl
  | @cons placed other _ _ first _ inductionHypothesis =>
      obtain ⟨node, comments⟩ := placed
      obtain ⟨otherNode, otherComments⟩ := other
      rw [recordsOfAttached, recordsOfAttached, toOption_bind, toOption_bind,
        toOption_recordOfNode file first.node first.comments]
      refine Option.bind_congr fun found _ => ?_
      rw [toOption_bind, toOption_bind, inductionHypothesis]

/-- Children that are alike have the same records. -/
theorem toOption_ofChildren (file : String) {children others : List RootChild}
    (areLike : AreChildrenLike children others)
    (areComments : ∀ comment, .comment comment ∈ children → IsGoComment comment.text) :
    (ofChildren file others).toOption = (ofChildren file children).toOption :=
  toOption_recordsOfAttached file
    (isPlacedLike_attachedAfter ⟨.nil, rfl⟩ areLike areComments)

/-- A source that no text is broken in has the same records with a return in front of each line
feed. -/
theorem toOption_ofSource (file : String) {source : String} (unbroken : HasUnbrokenTexts source) :
    (ofSource file (sourceWithReturns source)).toOption = (ofSource file source).toOption := by
  have areLike := areChildrenLike_readSource unbroken
  rw [ofSource, ofSource]
  cases read : readSource source with
  | error fault =>
      rw [read] at areLike
      cases otherRead : readSource (sourceWithReturns source) with
      | error otherFault => rfl
      | ok others =>
          rw [otherRead] at areLike
          cases areLike
  | ok children =>
      rw [read] at areLike
      cases otherRead : readSource (sourceWithReturns source) with
      | error otherFault =>
          rw [otherRead] at areLike
          cases areLike
      | ok others =>
          rw [otherRead] at areLike
          cases areLike with
          | some areLike =>
              exact toOption_ofChildren file areLike fun comment => isGoComment_of_readSource read

/-- A source with returns is refused if a line ends inside an interpreted text of it. -/
theorem exists_fault_of_broken (file : String) {source : String}
    (broken : ¬ HasUnbrokenTexts source) :
    ∃ fault, ofSource file (sourceWithReturns source) = .error fault := by
  rw [ofSource]
  cases read : readSource (sourceWithReturns source) with
  | error position => exact ⟨_, rfl⟩
  | ok children => exact absurd (hasUnbrokenTexts_of_readSource read) broken

/-- **Line endings.**  Comments whose lines are ended with a return and a line feed are markers
iff those with line feeds are, and have the same documentation.  So children on the same rows
have the same records.  Such are the children of a source and of the source with a return in
front of each line feed, unless a line ends inside an interpreted text, which the return turns
into no text at all. -/
theorem extraction_withReturns {comments : List String}
    (areComments : ∀ text ∈ comments, IsGoComment text) (file source : String) :
    (∀ text ∈ comments, isExportMarker (commentWithReturns text) = isExportMarker text) ∧
      documentation (comments.map commentWithReturns) = documentation comments ∧
      (∀ children others, AreChildrenLike children others →
        (∀ comment, .comment comment ∈ children → IsGoComment comment.text) →
        (ofChildren file others).toOption = (ofChildren file children).toOption) ∧
      (HasUnbrokenTexts source →
        Option.Rel AreChildrenLike (readSource source).toOption
            (readSource (sourceWithReturns source)).toOption ∧
          (ofSource file (sourceWithReturns source)).toOption = (ofSource file source).toOption) ∧
      (¬ HasUnbrokenTexts source →
        ∃ fault, ofSource file (sourceWithReturns source) = .error fault) := by
  have sayTheSame : ∀ text ∈ comments, SaysTheSame text (commentWithReturns text) :=
    fun text member => saysTheSame_commentWithReturns (areComments text member)
  refine ⟨fun text member => (sayTheSame text member).1, documentation_congr ?_, ?_,
    fun unbroken => ?_, exists_fault_of_broken file⟩
  · rw [List.forall₂_map_right_iff, List.forall₂_same]
    exact sayTheSame
  · exact fun children others => toOption_ofChildren file
  · exact ⟨areChildrenLike_readSource unbroken, toOption_ofSource file unbroken⟩

/-- A block and a marker. -/
def sampleComments : List String := ["/* Greets,\n *  twice. */", "//export Hello"]

/-- A function with these comments above it, and a comment at the end. -/
def commentedSource : String :=
  "package p\n\n" ++ String.intercalate "\n" sampleComments ++
    "\nfunc Hello(name *C.char) \x7b\x7d\n// end"

theorem commentedSource_withReturns :
    (∀ text ∈ sampleComments, IsGoComment text) ∧
      sampleComments.map commentWithReturns =
        ["/* Greets,\r\n *  twice. */", "//export Hello\r"] ∧
      documentation (sampleComments.map commentWithReturns) = "Greets,\ntwice." ∧
      HasUnbrokenTexts commentedSource ∧
      ∃ functions, ofSource "a.go" (sourceWithReturns commentedSource) = .ok functions ∧
        functions.map ExportedFunction.documentation = ["Greets,\ntwice."] := by
  have areComments : ∀ text ∈ sampleComments, IsGoComment text := by
    rw [sampleComments, List.forall_mem_cons, List.forall_mem_singleton]
    exact ⟨@IsGoComment.block _ " Greets,\n *  twice. ".toList rfl, .line rfl (by decide)⟩
  have unbroken : HasUnbrokenTexts commentedSource := by decide +kernel
  obtain ⟨-, sameText, -, alike, -⟩ :=
    extraction_withReturns areComments "a.go" commentedSource
  have evaluated : (ofSource "a.go" commentedSource).toOption.map
      (fun functions => functions.map ExportedFunction.documentation) =
      some ["Greets,\ntwice."] := by decide +kernel
  rw [← (alike unbroken).2] at evaluated
  refine ⟨areComments, by decide +kernel, sameText.trans (by decide +kernel), unbroken, ?_⟩
  cases extracted : ofSource "a.go" (sourceWithReturns commentedSource) with
  | error fault =>
      rw [extracted] at evaluated
      cases evaluated
  | ok functions =>
      rw [extracted] at evaluated
      exact ⟨functions, rfl, Option.some.inj evaluated⟩

end AddonBindings.Export
