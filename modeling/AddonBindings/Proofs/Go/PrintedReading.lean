import AddonBindings.Proofs.Go.FirstToken
import AddonBindings.Proofs.Go.Printing

/-!
Contract: reading the tokens of a printed source.

Owns:
- types, lists of parameters, results and whole functions, each read back from its
  printed pieces with whatever follows it left over;
- the children of a printed source, with the rows of the functions and of the comments
  above them.

Does not own: which boundary types the functions get, which is in
`AddonBindings.Proofs.Export.RoundTrip`.
-/

namespace AddonBindings.Go

open Pattern Piece

variable {row : Nat} {place : Place} {token name point stop star : Token}
  {tokens rest : List Token} {text : String}

/-! ## Tokens -/

private theorem isFixed_mark (isToken : IsTokenOn row token (mark text)) (other : String) :
    token.isFixed other = (text == other) := by
  rw [Token.isFixed, isToken.kind, isToken.text]
  simp [mark]

private theorem kind_word (isFree : text ∉ reservedWords)
    (isToken : IsTokenOn row token (word text)) :
    token.lexeme.kind = .name := by
  rw [isToken.kind]
  exact if_neg isFree

private theorem text_word (isToken : IsTokenOn row token (word text)) :
    token.lexeme.text = text := by
  rw [isToken.text]
  exact String.ofList_toList

private theorem isFixed_name (isName : token.lexeme.kind = .name) (other : String) :
    token.isFixed other = false := by
  rw [Token.isFixed, isName]
  rfl

private theorem kind_mark (isToken : IsTokenOn row token (mark text)) :
    token.lexeme.kind = .fixed :=
  isToken.kind

private theorem text_mark (isToken : IsTokenOn row token (mark text)) :
    token.lexeme.text = text := by
  rw [isToken.text]
  exact String.ofList_toList

theorem isWord_word : (word text).isWord = true := by
  rw [isWord, word, nameKind]
  split <;> rfl

/-! ## Types -/

private theorem recogniseWithin_typeArguments (noBracket : stop.isFixed "[" = false) (depth : Nat) :
    Rule.recogniseWithin depth .typeArguments place (stop :: rest) = none := by
  cases depth with
  | zero => rfl
  | succ depth =>
      simp [Rule.recogniseWithin, Rule.pattern, Rule.inBrackets, all, recognise, single, noBracket]

private theorem recogniseWithin_typeName (isName : name.lexeme.kind = .name)
    (noPoint : stop.isFixed "." = false) (noBracket : stop.isFixed "[" = false) (depth : Nat) :
    Rule.recogniseWithin (depth + 1) .typeName place (name :: stop :: rest) =
      some (stop :: rest) := by
  simp [Rule.recogniseWithin, Rule.pattern, Rule.aName, all, recognise, single, isName, noPoint,
    recogniseWithin_typeArguments noBracket]

private theorem recogniseWithin_qualifiedName {package : Token}
    (isPackage : package.lexeme.kind = .name)
    (isPoint : point.isFixed "." = true) (sameLine : point.startsLine = false)
    (isName : name.lexeme.kind = .name) (noBracket : stop.isFixed "[" = false) (depth : Nat) :
    Rule.recogniseWithin (depth + 1) .typeName place (package :: point :: name :: stop :: rest) =
      some (stop :: rest) := by
  simp [Rule.recogniseWithin, Rule.pattern, Rule.aName, all, recognise, single, isPackage, isPoint,
    isName, endsHere, sameLine, canEndBefore,
    recogniseWithin_typeArguments noBracket]

private theorem recogniseWithin_type_of_typeName {left : List Token} {depth : Nat}
    (isTypeName : Rule.recogniseWithin depth .typeName place tokens = some left) :
    Rule.recogniseWithin (depth + 1) .type place tokens = some left := by
  simp [Rule.recogniseWithin, Rule.pattern, choice, recognise, isTypeName]

private theorem recogniseWithin_pointer {left : List Token} {depth : Nat}
    (isStar : star.isFixed "*" = true)
    (isMark : star.lexeme.kind = .fixed)
    (isType : Rule.recogniseWithin depth .type place tokens = some left) :
    Rule.recogniseWithin (depth + 1) .type place (star :: tokens) = some left := by
  have noTypeName : Rule.recogniseWithin depth .typeName place (star :: tokens) = none := by
    cases depth with
    | zero => rfl
    | succ depth => simp [Rule.recogniseWithin, Rule.pattern, Rule.aName, all, recognise, single,
        isMark]
  simp [Rule.recogniseWithin, Rule.pattern, choice, all, recognise, single, noTypeName, isStar,
    isType]

private theorem exists_depthBound (tokens : List Token) :
    ∃ depth, Rule.depthBound tokens = depth + 3 :=
  ⟨64 * tokens.length + 61, by rw [Rule.depthBound]; omega⟩

private theorem consumed_append_left (tokens rest : List Token) :
    consumed (tokens ++ rest) rest = tokens := by
  rw [consumed, List.length_append, Nat.add_sub_cancel, List.take_left]

def CarriedType.expression : CarriedType → TypeExpression
  | charPointer => .pointer "C" "char"
  | type => .identifier type.text

namespace CarriedType

variable (type : CarriedType)

theorem expression_of_spells (spells : Spells row tokens type.pieces) :
    (TypeSyntax.mk tokens).expression = type.expression := by
  cases type with
  | charPointer =>
      obtain ⟨star, _, rfl, isStar, spells⟩ := spells.word rfl
      obtain ⟨package, _, rfl, isPackage, spells⟩ := spells.word rfl
      obtain ⟨point, _, rfl, isPoint, spells⟩ := spells.word rfl
      obtain ⟨name, _, rfl, isName, ⟨⟩⟩ := spells.word rfl
      simp [TypeSyntax.expression, isFixed_mark isStar, kind_word (by decide) isPackage,
        isFixed_mark isPoint, kind_word (by decide) isName, text_word isPackage, text_word isName,
        expression]
  | _ =>
      obtain ⟨name, _, rfl, isName, ⟨⟩⟩ := spells.word rfl
      simp [TypeSyntax.expression, kind_word (by decide) isName, text_word isName, expression]

theorem exists_first (spells : Spells row tokens type.pieces) :
    ∃ first others, tokens = first :: others ∧ first.startsLine = false ∧
      ∀ text ≠ "*", first.isFixed text = false := by
  cases type with
  | charPointer =>
      obtain ⟨star, others, rfl, isStar, -⟩ := spells.word rfl
      refine ⟨star, others, rfl, isStar.sameLine, fun text noStar => ?_⟩
      rw [isFixed_mark isStar, beq_eq_false_iff_ne]
      exact noStar.symm
  | _ =>
      obtain ⟨name, others, rfl, isName, -⟩ := spells.word rfl
      exact ⟨name, others, rfl, isName.sameLine,
        fun text _ => isFixed_name (kind_word (by decide) isName) text⟩

theorem recognise_of_spells (spells : Spells row tokens type.pieces)
    (noPoint : stop.isFixed "." = false) (noBracket : stop.isFixed "[" = false) :
    Rule.type.recognise place (tokens ++ stop :: rest) = some (stop :: rest) := by
  obtain ⟨depth, isDepth⟩ := exists_depthBound (tokens ++ stop :: rest)
  rw [Rule.recognise, isDepth]
  cases type with
  | charPointer =>
      obtain ⟨star, _, rfl, isStar, spells⟩ := spells.word rfl
      obtain ⟨package, _, rfl, isPackage, spells⟩ := spells.word rfl
      obtain ⟨point, _, rfl, isPoint, spells⟩ := spells.word rfl
      obtain ⟨name, _, rfl, isName, ⟨⟩⟩ := spells.word rfl
      exact recogniseWithin_pointer (isFixed_mark isStar "*") (kind_mark isStar)
        (recogniseWithin_type_of_typeName (recogniseWithin_qualifiedName
          (kind_word (by decide) isPackage) (isFixed_mark isPoint ".") isPoint.sameLine
          (kind_word (by decide) isName) noBracket depth))
  | _ =>
      obtain ⟨name, _, rfl, isName, ⟨⟩⟩ := spells.word rfl
      exact recogniseWithin_type_of_typeName
        (recogniseWithin_typeName (kind_word (by decide) isName) noPoint noBracket (depth + 1))

theorem readType_of_spells (spells : Spells row tokens type.pieces)
    (noPoint : stop.isFixed "." = false) (noBracket : stop.isFixed "[" = false) :
    readType place (tokens ++ stop :: rest) = some (⟨tokens⟩, stop :: rest) := by
  rw [readType, type.recognise_of_spells spells noPoint noBracket, Option.map_some,
    consumed_append_left]

end CarriedType

/-! ## Parameters -/

/-- The entry is the parameter: its name, and a type of the same shape. -/
def IsEntryOf (entry : ParameterEntry) (parameter : ParameterSpec) : Prop :=
  ∃ name type, entry = .named name type ∧ name.name = parameter.name.text ∧
    type.expression = parameter.type.expression

/-- The item declares the parameter: its name, and a type of the same shape. -/
def IsItemOf (item : ParameterItem) (parameter : ParameterSpec) : Prop :=
  ∃ type, item = .declared [parameter.name.text] type ∧
    type.expression = parameter.type.expression

private theorem forall₂_grouped {entries : List ParameterEntry} {parameters : List ParameterSpec}
    (areEntries : List.Forall₂ IsEntryOf entries parameters) :
    List.Forall₂ IsItemOf (grouped [] entries) parameters := by
  induction areEntries with
  | nil => exact .nil
  | cons isEntry _ inductionHypothesis =>
      obtain ⟨name, type, rfl, sameName, sameType⟩ := isEntry
      rw [grouped]
      exact .cons ⟨type, by rw [← sameName]; rfl, sameType⟩ inductionHypothesis

namespace ParameterSpec

variable {parameter : ParameterSpec} {parameters : List ParameterSpec}

private theorem readEntry_of_spells (spells : Spells row tokens parameter.pieces)
    (noPoint : stop.isFixed "." = false) (noBracket : stop.isFixed "[" = false)
    (rest : List Token) :
    ∃ name others entry, tokens = name :: others ∧ name.lexeme.kind = .name ∧
      name.comments = [] ∧ readEntry (tokens ++ stop :: rest) = some (entry, stop :: rest) ∧
      IsEntryOf entry parameter := by
  obtain ⟨name, _, rfl, isName, spells⟩ := spells.word isWord_word
  have isType := spells.blank rfl
  have nameKind := kind_word parameter.name.isFree isName
  obtain ⟨first, others, rfl, -, noMark⟩ := parameter.type.exists_first isType
  refine ⟨name, first :: others, .named name ⟨first :: others⟩, rfl, nameKind, isName.noComment,
    ?_, name, ⟨first :: others⟩, rfl, text_word isName, parameter.type.expression_of_spells isType⟩
  have notVariadic : readVariadic (name :: first :: (others ++ stop :: rest)) = none := by
    simp [readVariadic, isFixed_name nameKind, noMark "..." (by decide)]
  have isNamed : readType .enclosed (first :: others ++ stop :: rest) =
      some (⟨first :: others⟩, stop :: rest) :=
    parameter.type.readType_of_spells isType noPoint noBracket
  rw [readEntry, List.cons_append, List.cons_append, notVariadic, Option.none_or, readNamed,
    if_pos nameKind, ← List.cons_append, isNamed]
  rfl

private theorem readEntries_closing {closing : Token} (spells : Spells row tokens parameter.pieces)
    (isClosing : IsTokenOn row closing (mark ")")) (count : Nat) (rest : List Token) :
    ∃ entry, readEntries (count + 1) (tokens ++ closing :: rest) = some ([entry], rest) ∧
      IsEntryOf entry parameter := by
  obtain ⟨name, others, entry, rfl, isName, noComment, read, isEntry⟩ :=
    readEntry_of_spells spells (isFixed_mark isClosing ".") (isFixed_mark isClosing "[") rest
  refine ⟨entry, ?_, isEntry⟩
  rw [List.cons_append] at read ⊢
  simp [readEntries, isFixed_name isName, read, leadingComments, noComment, isClosing.noComment,
    isFixed_mark isClosing]

private theorem readEntries_comma {comma : Token} {count : Nat} {entries : List ParameterEntry}
    {left : List Token} (spells : Spells row tokens parameter.pieces)
    (isComma : IsTokenOn row comma (mark ","))
    (others : readEntries count rest = some (entries, left)) :
    ∃ entry, readEntries (count + 1) (tokens ++ comma :: rest) = some (entry :: entries, left) ∧
      IsEntryOf entry parameter := by
  obtain ⟨name, _, entry, rfl, isName, noComment, read, isEntry⟩ :=
    readEntry_of_spells spells (isFixed_mark isComma ".") (isFixed_mark isComma "[") rest
  refine ⟨entry, ?_, isEntry⟩
  rw [List.cons_append] at read ⊢
  simp [readEntries, isFixed_name isName, read, leadingComments, noComment, isComma.noComment,
    isFixed_mark isComma, others]

private theorem length_lt_of_spells (spells : Spells row tokens (morePieces parameters)) :
    parameters.length < tokens.length := by
  induction parameters generalizing tokens with
  | nil =>
      obtain ⟨closing, _, rfl, -⟩ := spells.word rfl
      exact Nat.zero_lt_succ _
  | cons parameter parameters inductionHypothesis =>
      obtain ⟨comma, _, rfl, -, spells⟩ := spells.word rfl
      obtain ⟨first, others, rfl, -, isMore⟩ := (spells.blank rfl).append
      have := inductionHypothesis isMore
      simp only [List.length_cons, List.length_append]
      omega

private theorem readEntries_of_spells {count : Nat} (isCount : parameters.length < count)
    {first : List Token} (isFirst : Spells row first parameter.pieces)
    (isMore : Spells row tokens (morePieces parameters)) (rest : List Token) :
    ∃ entries, readEntries count (first ++ (tokens ++ rest)) = some (entries, rest) ∧
      List.Forall₂ IsEntryOf entries (parameter :: parameters) := by
  induction parameters generalizing count parameter first tokens with
  | nil =>
      obtain ⟨count, rfl⟩ := Nat.exists_eq_add_one.mpr isCount
      obtain ⟨closing, _, rfl, isClosing, ⟨⟩⟩ := isMore.word rfl
      obtain ⟨entry, read, isEntry⟩ := readEntries_closing isFirst isClosing count rest
      exact ⟨[entry], read, .cons isEntry .nil⟩
  | cons next parameters inductionHypothesis =>
      obtain ⟨count, rfl⟩ := Nat.exists_eq_add_one.mpr (Nat.zero_lt_of_lt isCount)
      obtain ⟨comma, _, rfl, isComma, isMore⟩ := isMore.word rfl
      obtain ⟨second, others, rfl, isSecond, isMore⟩ := (isMore.blank rfl).append
      obtain ⟨entries, read, areEntries⟩ :=
        inductionHypothesis (Nat.lt_of_succ_lt_succ isCount) isSecond isMore
      obtain ⟨entry, readFirst, isEntry⟩ := readEntries_comma isFirst isComma read
      refine ⟨entry :: entries, ?_, .cons isEntry areEntries⟩
      rw [List.cons_append, List.append_assoc]
      exact readFirst

private theorem readParameters_eq {opening : Token} (isOpening : opening.isFixed "(" = true)
    (noComma : ∀ first ∈ tokens.head?, first.isFixed "," = false) :
    readParameters (opening :: tokens) =
      (readEntries tokens.length tokens).map fun (entries, rest) => (grouped [] entries, rest) := by
  match tokens with
  | [] => simp [readParameters, isOpening]
  | [only] => simp [readParameters, isOpening]
  | first :: second :: others => simp [readParameters, isOpening, noComma first rfl]

/-- Reading the list between the brackets gives the parameters back. -/
theorem readParameters_of_spells {opening : Token} (isOpening : IsTokenOn row opening (mark "("))
    (spells : Spells row tokens (listPieces parameters)) (rest : List Token) :
    ∃ items, readParameters (opening :: (tokens ++ rest)) = some (items, rest) ∧
      List.Forall₂ IsItemOf items parameters := by
  cases parameters with
  | nil =>
      obtain ⟨closing, _, rfl, isClosing, ⟨⟩⟩ := spells.word rfl
      refine ⟨[], ?_, .nil⟩
      rw [readParameters_eq (isFixed_mark isOpening "(")]
      · simp [readEntries, leadingComments, isClosing.noComment, isFixed_mark isClosing, grouped,
          asTypes]
      · rintro _ ⟨⟩
        exact isFixed_mark isClosing ","
  | cons parameter parameters =>
      obtain ⟨first, others, rfl, isFirst, isMore⟩ := spells.append
      obtain ⟨name, more, isHead, isName, -⟩ := isFirst.word isWord_word
      have noComma := isFixed_name (kind_word parameter.name.isFree isName) ","
      have enough : parameters.length < (first ++ (others ++ rest)).length := by
        have := length_lt_of_spells isMore
        simp only [List.length_append]
        omega
      obtain ⟨entries, read, areEntries⟩ := readEntries_of_spells enough isFirst isMore rest
      refine ⟨grouped [] entries, ?_, forall₂_grouped areEntries⟩
      rw [List.append_assoc, readParameters_eq (isFixed_mark isOpening "("), read]
      · rfl
      · rw [isHead]
        rintro _ ⟨⟩
        exact noComma

end ParameterSpec

/-! ## Functions -/

/-- The result is absent, or a type of the same shape. -/
def IsResultOf : ResultSyntax → Option CarriedType → Prop
  | .absent, none => True
  | .single type, some carried => type.expression = carried.expression
  | _, _ => False

/-- The declaration has the name, the parameters and the result of the function. -/
structure IsDeclarationOf (declaration : FunctionDeclaration) (function : FunctionSpec) : Prop where
  name : declaration.name = function.name.text
  parameters : List.Forall₂ IsItemOf declaration.parameters function.parameters
  result : IsResultOf declaration.result function.result

private theorem endsHere_eq_false (sameLine : token.startsLine = false) (place : Place) :
    endsHere place (token :: rest) = false := by
  simp [endsHere, sameLine]

namespace FunctionSpec

variable {function : FunctionSpec} {opening closing : Token}

private theorem readResult_absent (isOpening : IsTokenOn row opening (mark "\x7b"))
    (rest : List Token) :
    readResult (opening :: rest) = (.absent, opening :: rest) := by
  -- no type starts with a brace, so the block is not taken for a result
  have onlyStart := Rule.onlyStart_openingBrace
  rw [← text_mark isOpening, ← kind_mark isOpening] at onlyStart
  have noType : Rule.type.recognise .tail (opening :: rest) = none :=
    Rule.recogniseWithin_eq_none onlyStart (by decide) _ _ rest
  have noParameters : readParameters (opening :: rest) = none := by
    simp [readParameters, isFixed_mark isOpening]
  rw [readResult, endsHere_eq_false isOpening.sameLine, noParameters, readType, noType]
  rfl

private theorem readResult_single {type : CarriedType} (spells : Spells row tokens type.pieces)
    (isOpening : IsTokenOn row opening (mark "\x7b")) (rest : List Token) :
    readResult (tokens ++ opening :: rest) = (.single ⟨tokens⟩, opening :: rest) := by
  have isType : readType .tail (tokens ++ opening :: rest) = some (⟨tokens⟩, opening :: rest) :=
    type.readType_of_spells spells (isFixed_mark isOpening ".") (isFixed_mark isOpening "[")
  obtain ⟨first, others, rfl, sameLine, noMark⟩ := type.exists_first spells
  have noParameters : readParameters (first :: (others ++ opening :: rest)) = none := by
    simp [readParameters, noMark "(" (by decide)]
  rw [List.cons_append] at isType ⊢
  rw [readResult, endsHere_eq_false sameLine, noParameters, isType]
  rfl

private theorem readResult_of_spells (spells : Spells row tokens function.resultPieces)
    (isOpening : IsTokenOn row opening (mark "\x7b")) (rest : List Token) :
    ∃ result, readResult (tokens ++ opening :: rest) = (result, opening :: rest) ∧
      IsResultOf result function.result := by
  rw [resultPieces] at spells
  cases given : function.result with
  | none =>
      rw [given] at spells
      cases spells
      exact ⟨.absent, readResult_absent isOpening rest, trivial⟩
  | some type =>
      rw [given] at spells
      obtain ⟨typeTokens, _, rfl, isType, isBlank⟩ := spells.append
      cases isBlank.blank rfl
      rw [List.append_nil]
      exact ⟨.single ⟨typeTokens⟩, readResult_single isType isOpening rest,
        type.expression_of_spells isType⟩

private theorem afterOptional_block (isOpening : IsTokenOn row opening (mark "\x7b"))
    (isClosing : IsTokenOn row closing (mark "\x7d")) (rest : List Token) :
    afterOptional .block (opening :: closing :: rest) = rest := by
  obtain ⟨depth, isDepth⟩ := exists_depthBound (opening :: closing :: rest)
  -- no statement starts with a closing brace, so the block is empty
  have onlyStart := Rule.onlyStart_closingBrace
  rw [← text_mark isClosing, ← kind_mark isClosing] at onlyStart
  have noStatement (place : Place) :
      Rule.recogniseWithin (depth + 2) .statementItem place (closing :: rest) = none :=
    Rule.recogniseWithin_eq_none onlyStart List.not_mem_nil _ _ rest
  have isBlock : Rule.block.recognise .tail (opening :: closing :: rest) = some rest := by
    rw [Rule.recognise, isDepth, Rule.recogniseWithin]
    simp [Rule.pattern, Rule.inBraces, Rule.statements, all, recognise, single, exhaust,
      canEndBefore, noStatement, isFixed_mark isOpening, isFixed_mark isClosing]
  rw [afterOptional, endsHere_eq_false isOpening.sameLine, isBlock]
  rfl

private theorem typeParameters_eq_none
    (isOpening : IsTokenOn row opening (mark "(")) (rest : List Token) :
    Rule.typeParameters.recognise .enclosed (opening :: rest) = none := by
  obtain ⟨depth, isDepth⟩ := exists_depthBound (opening :: rest)
  rw [Rule.recognise, isDepth, Rule.recogniseWithin]
  simp [Rule.pattern, Rule.inBrackets, all, recognise, single, isFixed_mark isOpening]

/-- Reading a printed line gives the function back. -/
theorem readFunction_of_spells (spells : Spells row tokens function.signaturePieces)
    (isFunc : token.isFixed "func" = true) (rest : List Token) :
    ∃ declaration, readFunction (token :: (tokens ++ rest)) = some (declaration, rest) ∧
      IsDeclarationOf declaration function := by
  obtain ⟨name, _, rfl, isName, spells⟩ := (spells.blank rfl).word isWord_word
  obtain ⟨opening, _, rfl, isOpening, spells⟩ := spells.word rfl
  obtain ⟨listTokens, _, rfl, isList, spells⟩ := spells.append
  obtain ⟨resultTokens, _, rfl, isResult, spells⟩ := (spells.blank rfl).append
  obtain ⟨blockOpening, _, rfl, isBlockOpening, spells⟩ := spells.word rfl
  obtain ⟨blockClosing, _, rfl, isBlockClosing, ⟨⟩⟩ := spells.word rfl
  obtain ⟨items, readItems, areItems⟩ := ParameterSpec.readParameters_of_spells isOpening isList
    (resultTokens ++ blockOpening :: blockClosing :: rest)
  obtain ⟨result, readGiven, isResult⟩ := readResult_of_spells isResult isBlockOpening
    (blockClosing :: rest)
  refine ⟨⟨name.lexeme.text, items, result⟩, ?_, text_word isName, areItems, isResult⟩
  simp only [List.cons_append, List.append_assoc, List.nil_append]
  rw [readFunction, isFunc, kind_word function.name.isFree isName, typeParameters_eq_none isOpening]
  simp [readItems, readGiven, afterOptional_block isBlockOpening isBlockClosing]

end FunctionSpec

/-! ## Files -/

private theorem commentsOf_append (front back : List Lexeme) :
    commentsOf (front ++ back) = commentsOf front ++ commentsOf back := by
  rw [commentsOf, List.filter_append, List.map_append, ← commentsOf, ← commentsOf]

private theorem commentsOf_of_isQuiet {lead : List Lexeme} (quiet : IsQuiet lead) :
    commentsOf lead = [] := by
  rw [commentsOf, List.map_eq_nil_iff, List.filter_eq_nil_iff]
  intro lexeme member
  simp [(quiet lexeme member).1]

namespace FunctionSpec

variable {function : FunctionSpec} {functions : List FunctionSpec} {lead : List Lexeme}
  {position : Position}

structure IsFirstOf (row : Nat) (token : Token) (function : FunctionSpec) : Prop where
  isFunc : token.isFixed "func" = true
  startsLine : token.startsLine = true
  start : token.lexeme.start.row = row + 2 + function.comments.length
  stop : token.lexeme.stop.row = row + 2 + function.comments.length
  onRows : AreOnRows (row + 2) function.comments (commentsOf token.lead)

theorem IsFirstOf.isFinish (isFirst : IsFirstOf row token function) : token.isFinish = false := by
  have isFunc := isFirst.isFunc
  rw [Token.isFixed, Bool.and_eq_true, decide_eq_true_eq] at isFunc
  rw [Token.isFinish, isFunc.1]
  rfl

private theorem isWord_of_mem_gapPieces : ∀ piece ∈ function.gapPieces, piece.isWord = false := by
  rw [gapPieces, List.forall_mem_cons, commentPieces]
  refine ⟨rfl, fun piece member => ?_⟩
  obtain ⟨text, -, isPiece⟩ := List.mem_flatMap.mp member
  rcases List.mem_cons.mp isPiece with rfl | isBlank
  · rfl
  · rw [List.mem_singleton.mp isBlank]
    rfl

private theorem exists_tokensFrom_cons (quiet : IsQuiet lead) :
    ∃ token tokens left next,
      tokensFrom lead position (bodyPieces (function :: functions)) =
          token :: (tokens ++ tokensFrom left next (bodyPieces functions)) ∧
        IsFirstOf position.row token function ∧
        Spells (position.row + 2 + function.comments.length) tokens function.signaturePieces ∧
        IsQuiet left ∧ next.row = position.row + 2 + function.comments.length := by
  have lineOnLine := function.isOnLine_of_mem_linePieces
  rw [linePieces, List.forall_mem_cons] at lineOnLine
  obtain ⟨funcOnLine, restOnLine⟩ := lineOnLine
  let start := position.advance (charsOf function.gapPieces)
  have startRow : start.row = position.row + 2 + function.comments.length :=
    function.row_advance_gapPieces position
  let afterWord := start.advance (word "func").chars
  have afterWordRow : afterWord.row = start.row := row_advance_of_not_mem funcOnLine.2
  obtain ⟨tokens, left, same, quietLeft, spells⟩ := exists_tokensFrom_line (List.forall_mem_nil _)
    restOnLine afterWord (bodyPieces functions)
  refine ⟨⟨lead ++ lexemesOf position function.gapPieces, (word "func").lexeme start⟩, tokens, left,
    afterWord.advance (charsOf function.signaturePieces), ?_, ⟨rfl, ?_, startRow, ?_, ?_⟩, ?_,
    quietLeft, ?_⟩
  · rw [bodyPieces, List.flatMap_cons, List.append_assoc, List.append_assoc, ← bodyPieces,
      tokensFrom_lead isWord_of_mem_gapPieces, linePieces, List.cons_append, tokensFrom,
      if_pos isWord_word]
    exact congrArg _ same
  · simp [Token.startsLine, gapPieces, lexemesOf, Piece.lexeme, Piece.blank]
  · exact afterWordRow.trans startRow
  · rw [commentsOf_append, commentsOf_of_isQuiet quiet, List.nil_append]
    exact function.areOnRows_gapPieces position
  · rwa [afterWordRow, startRow] at spells
  · rw [row_advance_line restOnLine, afterWordRow, startRow]

/-- What follows a printed line ends it. -/
theorem exists_tokensFrom_end (functions : List FunctionSpec) (quiet : IsQuiet lead) :
    ∃ token others, tokensFrom lead position (bodyPieces functions) = token :: others ∧
      (token.startsLine || token.isFinish) = true := by
  cases functions with
  | nil => exact ⟨_, [], rfl, by simp [Token.isFinish]⟩
  | cons function functions =>
      obtain ⟨token, _, _, _, same, isFirst, -⟩ := exists_tokensFrom_cons quiet
      exact ⟨token, _, same, by rw [isFirst.startsLine, Bool.true_or]⟩

private theorem readTerminator_body (functions : List FunctionSpec) (quiet : IsQuiet lead) :
    readTerminator (tokensFrom lead position (bodyPieces functions)) =
      some ([], tokensFrom lead position (bodyPieces functions)) := by
  obtain ⟨token, others, same, ends⟩ := exists_tokensFrom_end functions quiet
  rw [same, readTerminator, if_pos ends]

/-- A node that is read is made of the tokens it takes. -/
theorem readNode_eq {content : NodeContent} (read : readContent (token :: (tokens ++ rest)) =
      some (content, rest)) :
    ∃ stop ∈ token :: tokens, readNode (token :: (tokens ++ rest)) =
      some (⟨content, token.lexeme.start, stop.lexeme.stop⟩, rest) := by
  have taken : consumed (token :: (tokens ++ rest)) rest = token :: tokens :=
    consumed_append_left (token :: tokens) rest
  have isLast := List.getLast?_eq_some_getLast (List.cons_ne_nil token tokens)
  refine ⟨_, List.getLast_mem (List.cons_ne_nil token tokens), ?_⟩
  simp only [readNode, read, taken, isLast, Option.bind_eq_bind, Option.bind_some, List.head?_cons]
  rfl

/-- One more node in front of the children that are read. -/
theorem readChildren_cons {content : NodeContent} {children : List RootChild} {count : Nat}
    (noFinish : token.isFinish = false)
    (isContent : readContent (token :: (tokens ++ rest)) = some (content, rest))
    (ends : readTerminator rest = some ([], rest)) (read : readChildren count rest = .ok children) :
    ∃ stop ∈ token :: tokens,
      readChildren (count + 1) (token :: (tokens ++ rest)) =
        .ok ((commentsOf token.lead).map .comment ++
          .node ⟨content, token.lexeme.start, stop.lexeme.stop⟩ :: children) := by
  obtain ⟨stop, isLast, isNode⟩ := readNode_eq isContent
  refine ⟨stop, isLast, ?_⟩
  rw [readChildren, commentChildren_eq]
  simp [noFinish, isNode, ends, read, Except.map]

/-- The children are the functions: above each node stand its comments. -/
inductive AreChildrenOf : Nat → List FunctionSpec → List RootChild → Prop where
  | nil {row : Nat} : AreChildrenOf row [] []
  | cons {row : Nat} {function : FunctionSpec} {functions : List FunctionSpec}
      {comments : List Comment} {declaration : FunctionDeclaration} {start stop : Position}
      {children : List RootChild}
      (onRows : AreOnRows (row + 2) function.comments comments)
      (startRow : start.row = row + 2 + function.comments.length)
      (stopRow : stop.row = row + 2 + function.comments.length)
      (isDeclaration : IsDeclarationOf declaration function)
      (others : AreChildrenOf (row + 2 + function.comments.length) functions children) :
      AreChildrenOf row (function :: functions)
        (comments.map .comment ++ .node ⟨.function declaration, start, stop⟩ :: children)

private theorem readChildren_body (functions : List FunctionSpec) (lead : List Lexeme)
    (quiet : IsQuiet lead) (position : Position) (count : Nat)
    (enough : (tokensFrom lead position (bodyPieces functions)).length ≤ count) :
    ∃ children,
      readChildren count (tokensFrom lead position (bodyPieces functions)) = .ok children ∧
        AreChildrenOf position.row functions children := by
  induction functions generalizing lead position count with
  | nil =>
      obtain ⟨count, rfl⟩ := Nat.exists_eq_add_one.mpr (Nat.zero_lt_of_lt enough)
      refine ⟨[], ?_, .nil⟩
      have noComments : commentsOf (lead ++ [(blank "\n").lexeme position]) = [] := by
        rw [commentsOf_append, commentsOf_of_isQuiet quiet]
        rfl
      let stop := position.advance ['\n']
      have isEnd : tokensFrom lead position (bodyPieces []) =
          [⟨lead ++ [(blank "\n").lexeme position], ⟨.finish, "", stop, stop⟩⟩] := rfl
      rw [isEnd, readChildren, commentChildren_eq, noComments]
      rfl
  | cons function functions inductionHypothesis =>
      obtain ⟨token, tokens, left, next, same, isFirst, spells, quietLeft, nextRow⟩ :=
        exists_tokensFrom_cons quiet
      rw [same] at enough ⊢
      obtain ⟨count, rfl⟩ := Nat.exists_eq_add_one.mpr (Nat.zero_lt_of_lt enough)
      have restEnough : (tokensFrom left next (bodyPieces functions)).length ≤ count := by
        rw [List.length_cons, List.length_append] at enough
        omega
      obtain ⟨children, read, areChildren⟩ :=
        inductionHypothesis left quietLeft next count restEnough
      obtain ⟨declaration, readDeclaration, isDeclaration⟩ :=
        readFunction_of_spells spells isFirst.isFunc (tokensFrom left next (bodyPieces functions))
      have isContent :
          readContent (token :: (tokens ++ tokensFrom left next (bodyPieces functions))) =
            some (.function declaration, tokensFrom left next (bodyPieces functions)) := by
        rw [readContent, readDeclaration]
      obtain ⟨stop, isLast, readAll⟩ := readChildren_cons isFirst.isFinish isContent
        (readTerminator_body functions quietLeft) read
      have stopRow : stop.lexeme.stop.row = position.row + 2 + function.comments.length := by
        rcases List.mem_cons.mp isLast with rfl | inLine
        · exact isFirst.stop
        · exact spells.stop_row stop inLine
      rw [nextRow] at areChildren
      exact ⟨_, readAll, .cons isFirst.onRows isFirst.start stopRow isDeclaration areChildren⟩

private theorem readContent_head {package name : Token}
    (isPackage : package.isFixed "package" = true)
    (isName : name.lexeme.kind = .name) (rest : List Token) :
    readContent (package :: name :: rest) = some (.other, rest) := by
  have isFixed : package.lexeme.kind = .fixed ∧ package.lexeme.text = "package" := by
    simpa [Token.isFixed] using isPackage
  have noFunction : readFunction (package :: name :: rest) = none := by
    simp [readFunction, Token.isFixed, isFixed.2]
  have noSemicolon : package.isFixed ";" = false := by
    simp [Token.isFixed, isFixed.2]
  obtain ⟨depth, isDepth⟩ := exists_depthBound (package :: name :: rest)
  have isClause : Rule.packageClause.recognise .tail (package :: name :: rest) = some rest := by
    rw [Rule.recognise, isDepth, Rule.recogniseWithin]
    simp [Rule.pattern, Rule.aName, all, recognise, single, isPackage, isName]
  rw [readContent, noFunction, afterOther, noSemicolon, isClause]
  rfl

/-- Reading a printed source gives the package clause and the functions. -/
theorem readSource_sourceText (functions : List FunctionSpec) :
    ∃ start stop children,
      readSource (sourceText functions) = .ok (.node ⟨.other, start, stop⟩ :: children) ∧
        stop.row = 0 ∧ AreChildrenOf 0 functions children := by
  have headOnLine : ∀ piece ∈ headPieces, piece.IsOnLine := by decide
  obtain ⟨tokens, left, same, quietLeft, spells⟩ := exists_tokensFrom_line (List.forall_mem_nil _)
    headOnLine .origin (bodyPieces functions)
  have headStop := spells.stop_row
  obtain ⟨package, _, rfl, isPackage, spells⟩ := spells.word rfl
  obtain ⟨name, _, rfl, isName, ⟨⟩⟩ := (spells.blank rfl).word rfl
  let next := Position.origin.advance (charsOf headPieces)
  have nextRow : next.row = 0 := row_advance_line headOnLine
  let body := tokensFrom left next (bodyPieces functions)
  obtain ⟨children, read, areChildren⟩ :=
    readChildren_body functions left quietLeft next (body.length + 1) (Nat.le_succ _)
  rw [nextRow] at areChildren
  have isContent : readContent (package :: ([name] ++ body)) = some (.other, body) :=
    readContent_head (isFixed_mark isPackage "package") (kind_word (by decide) isName) body
  have noFinish : package.isFinish = false := by
    rw [Token.isFinish, isPackage.kind]
    rfl
  have noComments : commentsOf package.lead = [] := by
    rw [← List.map_eq_nil_iff, ← commentChildren_eq, commentChildren, isPackage.noComment]
    rfl
  obtain ⟨stop, isLast, readAll⟩ := readChildren_cons noFinish isContent
    (readTerminator_body functions quietLeft) read
  have isTokens : Go.tokens (sourceText functions) = package :: ([name] ++ body) :=
    (tokens_sourceText functions).trans same
  refine ⟨package.lexeme.start, stop.lexeme.stop, children, ?_, headStop stop isLast, areChildren⟩
  rw [noComments] at readAll
  rw [readSource, isTokens]
  exact readAll

end FunctionSpec
end AddonBindings.Go
