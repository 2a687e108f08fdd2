import AddonBindings.Go.SourceFile
import AddonBindings.Proofs.Go.Piece
import AddonBindings.Proofs.Text.Token
import AddonBindings.Text.Layout
import AddonBindings.Text.Printable

/-!
Contract: Go sources that are printed from the functions they export.

Owns:
- the functions that are printed, with their documentation;
- the printed lines and the text of a whole source;
- the pieces of a printed source, and its tokens.

Does not own: reading the tokens, which is in
`AddonBindings.Proofs.Go.PrintedReading`.
-/

namespace AddonBindings.Go

/-! ## What is printed -/

/-- An ASCII name that is no reserved word.  It may be predeclared. -/
structure FreeName where
  text : String
  isName : TypeExpression.isAsciiName text.toList = true
  isFree : text ∉ reservedWords
deriving DecidableEq

inductive CarriedType where
  | int | int8 | int16 | int32 | int64 | float32 | float64
  /-- A pointer to the first character of a C string. -/
  | charPointer
deriving DecidableEq, Repr

/-- A line of documentation: printable characters without blanks around them. -/
structure DocumentationLine where
  text : String
  filled : text ≠ ""
  trimmed : Text.trim text = text
  printable : text.toList.all Text.isPrintable = true
deriving DecidableEq

structure ParameterSpec where
  name : FreeName
  type : CarriedType
deriving DecidableEq

structure FunctionSpec where
  name : FreeName
  parameters : List ParameterSpec
  result : Option CarriedType
  documentation : List DocumentationLine
deriving DecidableEq

def IsLineComment (text : String) : Prop :=
  ∃ inside, text.toList = '/' :: '/' :: inside ∧ '\n' ∉ inside

theorem IsLineComment.lineFeed_not_mem {text : String} (isComment : IsLineComment text) :
    '\n' ∉ text.toList := by
  obtain ⟨inside, isText, inLine⟩ := isComment
  rw [isText, List.mem_cons, List.mem_cons, not_or, not_or]
  exact ⟨by decide, by decide, inLine⟩

theorem FreeName.lineFeed_not_mem (name : FreeName) : '\n' ∉ name.text.toList := by
  intro isBreak
  have isRest := Text.isAsciiNameRest_of_mem name.isName isBreak
  exact absurd isRest (by decide)

theorem DocumentationLine.lineFeed_not_mem (line : DocumentationLine) :
    '\n' ∉ line.text.toList := by
  intro isBreak
  exact absurd (List.all_eq_true.mp line.printable '\n' isBreak) (by decide)

def CarriedType.text : CarriedType → String
  | int => "int"
  | int8 => "int8"
  | int16 => "int16"
  | int32 => "int32"
  | int64 => "int64"
  | float32 => "float32"
  | float64 => "float64"
  | charPointer => "*C.char"

def ParameterSpec.text (parameter : ParameterSpec) : String :=
  parameter.name.text ++ " " ++ parameter.type.text

namespace FunctionSpec

/-- The comments above the function: its documentation and the marker. -/
def comments (function : FunctionSpec) : List String :=
  function.documentation.map (fun line => "// " ++ line.text) ++
    ["//export " ++ function.name.text]

theorem isLineComment_of_mem (function : FunctionSpec) :
    ∀ text ∈ function.comments, IsLineComment text := by
  intro text member
  rcases List.mem_append.mp member with isLine | isMarker
  · obtain ⟨line, -, rfl⟩ := List.mem_map.mp isLine
    refine ⟨' ' :: line.text.toList, by rw [String.toList_append]; rfl, ?_⟩
    rw [List.mem_cons, not_or]
    exact ⟨by decide, line.lineFeed_not_mem⟩
  · rw [List.mem_singleton.mp isMarker]
    refine ⟨"export ".toList ++ function.name.text.toList, by rw [String.toList_append]; rfl, ?_⟩
    rw [List.mem_append, not_or]
    exact ⟨by decide, function.name.lineFeed_not_mem⟩

def resultText (function : FunctionSpec) : String :=
  match function.result with
  | none => ""
  | some type => type.text ++ " "

def declarationText (function : FunctionSpec) : String :=
  "func " ++ function.name.text ++ "(" ++
    String.intercalate ", " (function.parameters.map ParameterSpec.text) ++ ") " ++
    function.resultText ++ "\x7b\x7d"

def lines (function : FunctionSpec) : List String :=
  "" :: (function.comments ++ [function.declarationText])

def sourceText (functions : List FunctionSpec) : String :=
  Text.fileText ("package main" :: functions.flatMap lines)

end FunctionSpec

/-! ## Pieces of a line -/

open Piece

def CarriedType.pieces : CarriedType → List Piece
  | charPointer => [mark "*", word "C", mark ".", word "char"]
  | type => [word type.text]

namespace ParameterSpec

def pieces (parameter : ParameterSpec) : List Piece :=
  word parameter.name.text :: blank " " :: parameter.type.pieces

def morePieces : List ParameterSpec → List Piece
  | [] => [mark ")"]
  | parameter :: rest => mark "," :: blank " " :: (parameter.pieces ++ morePieces rest)

def listPieces : List ParameterSpec → List Piece
  | [] => [mark ")"]
  | parameter :: rest => parameter.pieces ++ morePieces rest

end ParameterSpec

namespace FunctionSpec

def resultPieces (function : FunctionSpec) : List Piece :=
  match function.result with
  | none => []
  | some type => type.pieces ++ [blank " "]

/-- The pieces of the line that declares the function, behind its first word. -/
def signaturePieces (function : FunctionSpec) : List Piece :=
  blank " " :: word function.name.text :: mark "(" ::
    (ParameterSpec.listPieces function.parameters ++
      blank " " :: (function.resultPieces ++ [mark "\x7b", mark "\x7d"]))

def linePieces (function : FunctionSpec) : List Piece :=
  word "func" :: function.signaturePieces

def commentPieces (texts : List String) : List Piece :=
  texts.flatMap fun text => [comment text, blank "\n"]

/-- The pieces between the line before the function and its declaration. -/
def gapPieces (function : FunctionSpec) : List Piece :=
  blank "\n\n" :: commentPieces function.comments

def bodyPieces (functions : List FunctionSpec) : List Piece :=
  functions.flatMap (fun function => function.gapPieces ++ function.linePieces) ++ [blank "\n"]

def headPieces : List Piece :=
  [word "package", blank " ", word "main"]

end FunctionSpec

/-! ## The characters of the pieces -/

theorem CarriedType.charsOf_pieces (type : CarriedType) :
    charsOf type.pieces = type.text.toList := by
  cases type <;> rfl

namespace ParameterSpec

theorem charsOf_pieces (parameter : ParameterSpec) :
    charsOf parameter.pieces = parameter.text.toList := by
  rw [pieces, charsOf_cons, charsOf_cons, parameter.type.charsOf_pieces, text, String.toList_append,
    String.toList_append, List.append_assoc]
  rfl

theorem charsOf_listPieces (parameters : List ParameterSpec) :
    charsOf (listPieces parameters) =
      (String.intercalate ", " (parameters.map text)).toList ++ [')'] := by
  rw [String.toList_intercalate, List.map_map]
  cases parameters with
  | nil => rfl
  | cons parameter rest =>
      rw [listPieces, charsOf_append, charsOf_pieces]
      induction rest generalizing parameter with
      | nil =>
          rw [List.map_cons, List.map_nil, List.intercalate_singleton]
          rfl
      | cons next others inductionHypothesis =>
          rw [morePieces, charsOf_cons, charsOf_cons, charsOf_append, charsOf_pieces,
            inductionHypothesis]
          simp only [List.map_cons, List.intercalate_cons_cons, List.append_assoc]
          rfl

end ParameterSpec

namespace FunctionSpec

variable (function : FunctionSpec)

private theorem charsOf_resultPieces : charsOf function.resultPieces = function.resultText.toList :=
    by
  rw [resultPieces, resultText]
  cases function.result with
  | none => rfl
  | some type =>
      rw [charsOf_append, type.charsOf_pieces, String.toList_append]
      rfl

private theorem charsOf_linePieces : charsOf function.linePieces = function.declarationText.toList
    := by
  simp only [linePieces, signaturePieces, declarationText, charsOf_cons, charsOf_append, charsOf_nil,
    ParameterSpec.charsOf_listPieces, charsOf_resultPieces, String.toList_append, List.append_assoc]
  rfl

private theorem charsOf_commentPieces (texts : List String) :
    charsOf (commentPieces texts) = Text.linesText texts := by
  induction texts with
  | nil => rfl
  | cons text rest inductionHypothesis =>
      rw [commentPieces, List.flatMap_cons, charsOf_append, ← commentPieces, inductionHypothesis,
        Text.linesText_cons]
      exact List.append_assoc _ _ _

private theorem charsOf_gapPieces :
    charsOf function.gapPieces = '\n' :: '\n' :: Text.linesText function.comments := by
  rw [gapPieces, charsOf_cons, charsOf_commentPieces]
  rfl

/-- The pieces behind the package clause end the line of the package clause. -/
theorem charsOf_bodyPieces (functions : List FunctionSpec) :
    charsOf (bodyPieces functions) = '\n' :: Text.linesText (functions.flatMap lines) := by
  rw [bodyPieces, charsOf_append]
  induction functions with
  | nil => rfl
  | cons function rest inductionHypothesis =>
      rw [List.flatMap_cons, charsOf_append, charsOf_append, charsOf_gapPieces, charsOf_linePieces,
        List.append_assoc, inductionHypothesis, List.flatMap_cons, lines, Text.linesText_append,
        Text.linesText_cons, Text.linesText_append, Text.linesText_cons]
      simp [Text.linesText]

private theorem toList_sourceText (functions : List FunctionSpec) :
    (sourceText functions).toList = charsOf (headPieces ++ bodyPieces functions) := by
  rw [sourceText, Text.toList_fileText (List.cons_ne_nil _ _), Text.linesText_cons, charsOf_append,
    charsOf_bodyPieces]
  rfl

end FunctionSpec

/-! ## Cutting the characters into the pieces -/

variable {after : List Char}

namespace CarriedType

variable (type : CarriedType)

theorem areCutBefore_pieces (ends : EndsWord after) : AreCutBefore after type.pieces := by
  cases type with
  | charPointer =>
      exact ⟨⟨'*', [], rfl, rfl⟩, isCutBefore_word (by decide) (endsWord_cons (by decide)),
        ⟨'.', [], rfl, rfl⟩, isCutBefore_word (by decide) ends, trivial⟩
  | _ => exact ⟨isCutBefore_word (by decide) ends, trivial⟩

theorem endsBlank_pieces : EndsBlank (charsOf type.pieces ++ after) := by
  cases type <;> exact endsBlank_cons (by decide)

end CarriedType

namespace ParameterSpec

theorem areCutBefore_pieces (parameter : ParameterSpec) (ends : EndsWord after) :
    AreCutBefore after parameter.pieces :=
  ⟨isCutBefore_word parameter.name.isName (endsWord_cons (by decide)),
    isCutBefore_blank rfl rfl parameter.type.endsBlank_pieces,
    parameter.type.areCutBefore_pieces ends⟩

private theorem endsWord_morePieces (parameters : List ParameterSpec) :
    EndsWord (charsOf (morePieces parameters) ++ after) := by
  cases parameters <;> exact endsWord_cons (by decide)

private theorem areCutBefore_morePieces (parameters : List ParameterSpec) :
    AreCutBefore after (morePieces parameters) := by
  induction parameters with
  | nil => exact ⟨⟨')', [], rfl, rfl⟩, trivial⟩
  | cons parameter rest inductionHypothesis =>
      refine ⟨⟨',', [], rfl, rfl⟩, isCutBefore_blank rfl rfl ?_, ?_⟩
      · rw [charsOf_append, pieces, charsOf_cons, List.append_assoc, List.append_assoc]
        exact endsBlank_of_isAsciiName parameter.name.isName
      · exact areCutBefore_append.mpr
          ⟨parameter.areCutBefore_pieces (endsWord_morePieces rest), inductionHypothesis⟩

theorem areCutBefore_listPieces (parameters : List ParameterSpec) :
    AreCutBefore after (listPieces parameters) := by
  cases parameters with
  | nil => exact ⟨⟨')', [], rfl, rfl⟩, trivial⟩
  | cons parameter rest =>
      exact areCutBefore_append.mpr
        ⟨parameter.areCutBefore_pieces (endsWord_morePieces rest), areCutBefore_morePieces rest⟩

end ParameterSpec

namespace FunctionSpec

variable (function : FunctionSpec)

theorem areCutBefore_resultPieces :
    AreCutBefore ('\x7b' :: after) function.resultPieces ∧
      EndsBlank (charsOf function.resultPieces ++ '\x7b' :: after) := by
  rw [resultPieces]
  cases function.result with
  | none => exact ⟨trivial, endsBlank_cons (by decide)⟩
  | some type =>
      refine ⟨areCutBefore_append.mpr ⟨?_, ?_⟩, ?_⟩
      · exact type.areCutBefore_pieces (endsWord_cons (by decide))
      · exact ⟨isCutBefore_blank rfl rfl (endsBlank_cons (by decide)), trivial⟩
      · rw [charsOf_append, List.append_assoc]
        exact type.endsBlank_pieces

theorem areCutBefore_linePieces : AreCutBefore after function.linePieces := by
  obtain ⟨resultCut, resultStarts⟩ :
      AreCutBefore ('\x7b' :: '\x7d' :: after) function.resultPieces ∧
        EndsBlank (charsOf function.resultPieces ++ '\x7b' :: '\x7d' :: after) :=
    function.areCutBefore_resultPieces
  refine ⟨isCutBefore_word (by decide) (endsWord_cons (by decide)),
    isCutBefore_blank rfl rfl ?_,
    isCutBefore_word function.name.isName (endsWord_cons (by decide)),
    ⟨'(', [], rfl, rfl⟩,
    areCutBefore_append.mpr ⟨ParameterSpec.areCutBefore_listPieces _, ?_⟩⟩
  · rw [charsOf_cons, List.append_assoc]
    exact endsBlank_of_isAsciiName function.name.isName
  · refine ⟨isCutBefore_blank rfl rfl ?_, areCutBefore_append.mpr ⟨resultCut, ?_⟩⟩
    · rw [charsOf_append, List.append_assoc]
      exact resultStarts
    · exact ⟨⟨'\x7b', [], rfl, rfl⟩, ⟨'\x7d', [], rfl, rfl⟩, trivial⟩

private theorem areCutBefore_commentPieces {texts : List String}
    (areComments : ∀ text ∈ texts, IsLineComment text) (ends : EndsBlank after) :
    AreCutBefore after (commentPieces texts) ∧
      EndsBlank (charsOf (commentPieces texts) ++ after) := by
  induction texts with
  | nil => exact ⟨trivial, ends⟩
  | cons text rest inductionHypothesis =>
      obtain ⟨⟨inside, isText, inLine⟩, restAreComments⟩ := List.forall_mem_cons.mp areComments
      obtain ⟨restCut, restStarts⟩ := inductionHypothesis restAreComments
      refine ⟨⟨isCutBefore_comment isText inLine _, isCutBefore_blank rfl rfl restStarts,
        restCut⟩, ?_⟩
      rw [commentPieces, List.flatMap_cons, charsOf_append, charsOf_cons, comment, isText]
      exact endsBlank_cons (by decide)

theorem areCutBefore_gapPieces (ends : EndsBlank after) :
    AreCutBefore after function.gapPieces := by
  obtain ⟨commentsCut, commentsStart⟩ :=
    areCutBefore_commentPieces function.isLineComment_of_mem ends
  exact ⟨isCutBefore_blank rfl rfl commentsStart, commentsCut⟩

private theorem areCutBefore_bodyPieces (functions : List FunctionSpec) :
    AreCutBefore [] (bodyPieces functions) := by
  refine areCutBefore_append.mpr ⟨?_, isCutBefore_blank rfl rfl ?_, trivial⟩
  · induction functions with
    | nil => trivial
    | cons function rest inductionHypothesis =>
        refine areCutBefore_append.mpr ⟨areCutBefore_append.mpr ⟨?_, ?_⟩, inductionHypothesis⟩
        · exact function.areCutBefore_gapPieces (endsBlank_cons (by decide))
        · exact function.areCutBefore_linePieces
  · rintro _ ⟨⟩

private theorem areCutBefore_sourcePieces (functions : List FunctionSpec) :
    AreCutBefore [] (headPieces ++ bodyPieces functions) := by
  refine areCutBefore_append.mpr ⟨?_, areCutBefore_bodyPieces functions⟩
  rw [List.append_nil, charsOf_bodyPieces]
  exact ⟨isCutBefore_word (by decide) (endsWord_cons (by decide)),
    isCutBefore_blank rfl rfl (endsBlank_cons (by decide)),
    isCutBefore_word (by decide) (endsWord_cons (by decide)), trivial⟩

/-- The tokens of a printed source are the words of its pieces. -/
theorem tokens_sourceText (functions : List FunctionSpec) :
    tokens (sourceText functions) =
      tokensFrom [] .origin (headPieces ++ bodyPieces functions) := by
  have isLexemes : lexemes (sourceText functions) =
      lexemesFrom .origin (charsOf (headPieces ++ bodyPieces functions)) := by
    rw [lexemes, toList_sourceText]
    rfl
  rw [tokens, isLexemes, tokensAfter_lexemesFrom (areCutBefore_sourcePieces functions)]

end FunctionSpec

/-! ## Rows -/

theorem CarriedType.isOnLine_of_mem_pieces (type : CarriedType) :
    ∀ piece ∈ type.pieces, piece.IsOnLine := by
  cases type <;> decide

theorem FreeName.isOnLine_word (name : FreeName) : (word name.text).IsOnLine :=
  Piece.isOnLine_word name.lineFeed_not_mem

namespace ParameterSpec

theorem isOnLine_of_mem_pieces (parameter : ParameterSpec) :
    ∀ piece ∈ parameter.pieces, piece.IsOnLine := by
  simp only [pieces, List.forall_mem_cons]
  exact ⟨parameter.name.isOnLine_word, by decide, parameter.type.isOnLine_of_mem_pieces⟩

private theorem isOnLine_of_mem_morePieces (parameters : List ParameterSpec) :
    ∀ piece ∈ morePieces parameters, piece.IsOnLine := by
  induction parameters with
  | nil => decide
  | cons parameter rest inductionHypothesis =>
      simp only [morePieces, List.forall_mem_cons, List.forall_mem_append]
      exact ⟨by decide, by decide, parameter.isOnLine_of_mem_pieces, inductionHypothesis⟩

theorem isOnLine_of_mem_listPieces (parameters : List ParameterSpec) :
    ∀ piece ∈ listPieces parameters, piece.IsOnLine := by
  cases parameters with
  | nil => decide
  | cons parameter rest =>
      rw [listPieces, List.forall_mem_append]
      exact ⟨parameter.isOnLine_of_mem_pieces, isOnLine_of_mem_morePieces rest⟩

end ParameterSpec

def commentsOf (lexemes : List Lexeme) : List Comment :=
  (lexemes.filter fun lexeme => lexeme.kind = .comment).map fun lexeme =>
    ⟨lexeme.text, lexeme.start, lexeme.stop⟩

theorem commentChildren_eq (token : Token) :
    commentChildren token = (commentsOf token.lead).map .comment := by
  rw [commentChildren, Token.comments, commentsOf, List.map_map]
  rfl

inductive AreOnRows : Nat → List String → List Comment → Prop where
  | nil {row : Nat} : AreOnRows row [] []
  | cons {row : Nat} {comment : Comment} {text : String} {texts : List String}
      {comments : List Comment} (same : comment.text = text) (start : comment.start.row = row)
      (stop : comment.stop.row = row) (others : AreOnRows (row + 1) texts comments) :
      AreOnRows row (text :: texts) (comment :: comments)

namespace FunctionSpec

variable (function : FunctionSpec)

theorem isOnLine_of_mem_resultPieces : ∀ piece ∈ function.resultPieces, piece.IsOnLine := by
  rw [resultPieces]
  cases function.result with
  | none => decide
  | some type =>
      rw [List.forall_mem_append]
      exact ⟨type.isOnLine_of_mem_pieces, by decide⟩

theorem isOnLine_of_mem_linePieces : ∀ piece ∈ function.linePieces, piece.IsOnLine := by
  simp only [linePieces, signaturePieces, List.forall_mem_cons, List.forall_mem_append]
  exact ⟨by decide, by decide, function.name.isOnLine_word, by decide,
    ParameterSpec.isOnLine_of_mem_listPieces _, by decide, function.isOnLine_of_mem_resultPieces,
    by decide, by decide, List.forall_mem_nil _⟩

private theorem count_linesText {texts : List String}
    (areComments : ∀ text ∈ texts, IsLineComment text) :
    (Text.linesText texts).count '\n' = texts.length := by
  induction texts with
  | nil => rfl
  | cons text rest inductionHypothesis =>
      obtain ⟨isComment, restAreComments⟩ := List.forall_mem_cons.mp areComments
      rw [Text.linesText_cons, List.count_append, List.count_cons_self,
        inductionHypothesis restAreComments,
        List.count_eq_zero_of_not_mem isComment.lineFeed_not_mem, Nat.zero_add, List.length_cons]

theorem row_advance_gapPieces (position : Position) :
    (position.advance (charsOf function.gapPieces)).row =
      position.row + 2 + function.comments.length := by
  rw [Position.row_advance, charsOf_gapPieces, List.count_cons_self, List.count_cons_self,
    count_linesText function.isLineComment_of_mem]
  omega

private theorem areOnRows_commentPieces {texts : List String}
    (areComments : ∀ text ∈ texts, IsLineComment text) (position : Position) :
    AreOnRows position.row texts (commentsOf (lexemesOf position (commentPieces texts))) := by
  induction texts generalizing position with
  | nil => exact .nil
  | cons text rest inductionHypothesis =>
      obtain ⟨isComment, restAreComments⟩ := List.forall_mem_cons.mp areComments
      have sameRow : (position.advance text.toList).row = position.row :=
        row_advance_of_not_mem isComment.lineFeed_not_mem
      have nextRow : ((position.advance text.toList).advance ['\n']).row = position.row + 1 := by
        rw [Position.row_advance, sameRow]
        rfl
      have others := inductionHypothesis restAreComments
        ((position.advance text.toList).advance ['\n'])
      rw [nextRow] at others
      exact .cons String.ofList_toList rfl sameRow others

theorem areOnRows_gapPieces (position : Position) :
    AreOnRows (position.row + 2) function.comments
      (commentsOf (lexemesOf position function.gapPieces)) := by
  have startRow : (position.advance ['\n', '\n']).row = position.row + 2 := by
    rw [Position.row_advance]
    rfl
  have onRows := areOnRows_commentPieces function.isLineComment_of_mem
    (position.advance ['\n', '\n'])
  rwa [startRow] at onRows

end FunctionSpec

end AddonBindings.Go
