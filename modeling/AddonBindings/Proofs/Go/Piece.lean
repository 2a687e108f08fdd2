import Mathlib.Data.List.Forall2
import AddonBindings.Proofs.Go.Lexing

/-!
Contract: texts put together from the texts of lexemes.

Owns:
- pieces, which are lexemes without a place, and when a text of pieces is cut back into
  them;
- the tokens of such a text, and of one line of it;
- the pieces of words, marks, blanks and comments.

Does not own: which texts are put together, which is in
`AddonBindings.Proofs.Go.Printing`.
-/

namespace AddonBindings.Go

/-- The kind and the characters of a lexeme, wherever it stands. -/
structure Piece where
  kind : LexemeKind
  chars : List Char
deriving DecidableEq

namespace Piece

variable {piece : Piece} {pieces front back : List Piece} {position : Position}
  {rest after : List Char} {lead : List Lexeme} {text : String}

def charsOf (pieces : List Piece) : List Char :=
  pieces.flatMap chars

@[simp] theorem charsOf_nil : charsOf [] = [] := rfl

@[simp] theorem charsOf_cons (piece : Piece) (pieces : List Piece) :
    charsOf (piece :: pieces) = piece.chars ++ charsOf pieces := rfl

@[simp] theorem charsOf_append (front back : List Piece) :
    charsOf (front ++ back) = charsOf front ++ charsOf back :=
  List.flatMap_append

/-! ## Cutting -/

/-- The piece is the longest lexeme at its place if `rest` follows it. -/
def IsCutBefore (piece : Piece) (rest : List Char) : Prop :=
  ∃ first more, piece.chars = first :: more ∧ cut first (more ++ rest) = (piece.kind, rest)

/-- Each piece is the longest lexeme at its place if `after` follows the last. -/
def AreCutBefore (after : List Char) : List Piece → Prop
  | [] => True
  | piece :: pieces => piece.IsCutBefore (charsOf pieces ++ after) ∧ AreCutBefore after pieces

theorem areCutBefore_append :
    AreCutBefore after (front ++ back) ↔
      AreCutBefore (charsOf back ++ after) front ∧ AreCutBefore after back := by
  induction front with
  | nil => simp [AreCutBefore]
  | cons piece front inductionHypothesis =>
      rw [List.cons_append, AreCutBefore, AreCutBefore, inductionHypothesis, charsOf_append,
        List.append_assoc, and_assoc]

def lexeme (piece : Piece) (position : Position) : Lexeme :=
  ⟨piece.kind, String.ofList piece.chars, position, position.advance piece.chars⟩

theorem lexemesFrom_append (isCut : piece.IsCutBefore rest) :
    lexemesFrom position (piece.chars ++ rest) =
      piece.lexeme position :: lexemesFrom (position.advance piece.chars) rest := by
  obtain ⟨first, more, isPiece, isCut⟩ := isCut
  have count : (more ++ rest).length - rest.length = more.length := by simp
  rw [isPiece, List.cons_append, lexemesFrom, isCut]
  dsimp only
  rw [count, List.take_left, List.drop_left, lexeme, isPiece]

/-! ## Tokens -/

/-- The piece is neither a blank nor a comment. -/
def isWord (piece : Piece) : Bool :=
  piece.kind != .blank && piece.kind != .comment

/-- The tokens of pieces from a place on, given what stands before the first. -/
def tokensFrom (lead : List Lexeme) (position : Position) : List Piece → List Token
  | [] => [⟨lead, ⟨.finish, "", position, position⟩⟩]
  | piece :: pieces =>
      let next := position.advance piece.chars
      if piece.isWord then ⟨lead, piece.lexeme position⟩ :: tokensFrom [] next pieces
      else tokensFrom (lead ++ [piece.lexeme position]) next pieces

theorem tokensAfter_lexemesFrom (areCut : AreCutBefore [] pieces) :
    tokensAfter lead position (lexemesFrom position (charsOf pieces)) =
      tokensFrom lead position pieces := by
  induction pieces generalizing lead position with
  | nil =>
      rw [charsOf_nil, lexemesFrom]
      rfl
  | cons piece pieces inductionHypothesis =>
      obtain ⟨isCut, areCut⟩ := areCut
      rw [List.append_nil] at isCut
      rw [charsOf_cons, lexemesFrom_append isCut, tokensAfter, tokensFrom, isWord]
      by_cases isLead : piece.kind = .blank ∨ piece.kind = .comment
      · have noWord : (piece.kind != .blank && piece.kind != .comment) = false := by
          rcases isLead with blank | comment
          · simp [blank]
          · simp [comment]
        rw [noWord]
        exact (if_pos isLead).trans (inductionHypothesis areCut)
      · have word : (piece.kind != .blank && piece.kind != .comment) = true := by
          simpa [not_or] using isLead
        rw [word]
        exact (if_neg isLead).trans (congrArg _ (inductionHypothesis areCut))

/-! ## One line -/

/-- Nothing but blanks without a line feed stands in the lead. -/
def IsQuiet (lead : List Lexeme) : Prop :=
  ∀ lexeme ∈ lead, lexeme.kind = .blank ∧ '\n' ∉ lexeme.text.toList

/-- The token is the piece on the given row, with nothing but blanks before it on this
row. -/
structure IsTokenOn (row : Nat) (token : Token) (piece : Piece) : Prop where
  kind : token.lexeme.kind = piece.kind
  text : token.lexeme.text = String.ofList piece.chars
  sameLine : token.startsLine = false
  noComment : token.comments = []
  stop : token.lexeme.stop.row = row

/-- A piece of a line: it holds no line feed and is no comment. -/
def IsOnLine (piece : Piece) : Prop :=
  piece.kind ≠ .comment ∧ '\n' ∉ piece.chars

instance : Decidable piece.IsOnLine :=
  inferInstanceAs (Decidable (_ ∧ _))

theorem row_advance_of_not_mem {cs : List Char} (noBreak : '\n' ∉ cs) :
    (position.advance cs).row = position.row := by
  rw [Position.row_advance, List.count_eq_zero_of_not_mem noBreak, Nat.add_zero]

theorem row_advance_line (onLine : ∀ piece ∈ pieces, piece.IsOnLine) :
    (position.advance (charsOf pieces)).row = position.row := by
  refine row_advance_of_not_mem fun isBreak => ?_
  obtain ⟨piece, member, inPiece⟩ := List.mem_flatMap.mp isBreak
  exact (onLine piece member).2 inPiece

private theorem isTokenOn_lexeme (quiet : IsQuiet lead) (onLine : piece.IsOnLine) :
    IsTokenOn position.row ⟨lead, piece.lexeme position⟩ piece where
  kind := rfl
  text := rfl
  sameLine := by
    rw [Token.startsLine, List.any_eq_false]
    intro lexeme member
    simp [(quiet lexeme member).2]
  noComment := by
    rw [Token.comments, List.filter_eq_nil_iff]
    intro lexeme member
    simp [(quiet lexeme member).1]
  stop := row_advance_of_not_mem onLine.2

def Spells (row : Nat) (tokens : List Token) (pieces : List Piece) : Prop :=
  List.Forall₂ (IsTokenOn row) tokens (pieces.filter isWord)

namespace Spells

variable {row : Nat} {tokens : List Token}

theorem blank (isBlank : piece.isWord = false) (spells : Spells row tokens (piece :: pieces)) :
    Spells row tokens pieces := by
  rwa [Spells, List.filter_cons_of_neg (by simp [isBlank])] at spells

theorem word (isWord : piece.isWord = true) (spells : Spells row tokens (piece :: pieces)) :
    ∃ token others,
      tokens = token :: others ∧ IsTokenOn row token piece ∧ Spells row others pieces := by
  rw [Spells, List.filter_cons_of_pos isWord] at spells
  cases spells with
  | cons isToken others => exact ⟨_, _, rfl, isToken, others⟩

theorem append (spells : Spells row tokens (front ++ back)) :
    ∃ first second,
      tokens = first ++ second ∧ Spells row first front ∧ Spells row second back := by
  rw [Spells, List.filter_append] at spells
  exact ⟨_, _, (List.take_append_drop _ _).symm, List.forall₂_take_append _ _ _ spells,
    List.forall₂_drop_append _ _ _ spells⟩

theorem stop_row (spells : Spells row tokens pieces) :
    ∀ token ∈ tokens, token.lexeme.stop.row = row := by
  rw [Spells] at spells
  generalize pieces.filter isWord = words at spells
  induction spells with
  | nil => exact List.forall_mem_nil _
  | cons isToken _ inductionHypothesis =>
      exact List.forall_mem_cons.mpr ⟨isToken.stop, inductionHypothesis⟩

end Spells

/-- The words of a line are its tokens; blanks at its end are the lead of what follows. -/
theorem exists_tokensFrom_line (quiet : IsQuiet lead) (onLine : ∀ piece ∈ pieces, piece.IsOnLine)
    (position : Position) (more : List Piece) :
    ∃ tokens left,
      tokensFrom lead position (pieces ++ more) =
          tokens ++ tokensFrom left (position.advance (charsOf pieces)) more ∧
        IsQuiet left ∧ Spells position.row tokens pieces := by
  induction pieces generalizing lead position with
  | nil => exact ⟨[], lead, rfl, quiet, .nil⟩
  | cons piece pieces inductionHypothesis =>
      have pieceOnLine := onLine piece List.mem_cons_self
      have restOnLine : ∀ other ∈ pieces, other.IsOnLine :=
        fun other member => onLine other (List.mem_cons_of_mem _ member)
      have sameRow : (position.advance piece.chars).row = position.row :=
        row_advance_of_not_mem pieceOnLine.2
      rw [List.cons_append, tokensFrom, charsOf_cons, Position.advance_append]
      cases word : piece.isWord with
      | true =>
          obtain ⟨tokens, left, same, quietLeft, spells⟩ :=
            inductionHypothesis (List.forall_mem_nil _) restOnLine (position.advance piece.chars)
          rw [sameRow] at spells
          refine ⟨⟨lead, piece.lexeme position⟩ :: tokens, left, ?_, quietLeft, ?_⟩
          · rw [if_pos rfl, same, List.cons_append]
          · rw [Spells, List.filter_cons_of_pos word]
            exact .cons (isTokenOn_lexeme quiet pieceOnLine) spells
      | false =>
          have blank : piece.kind = .blank := by
            have isLead := word
            rw [isWord, Bool.and_eq_false_iff] at isLead
            rcases isLead with blank | comment
            · simpa using blank
            · exact absurd (by simpa using comment) pieceOnLine.1
          have quietLead : IsQuiet (lead ++ [piece.lexeme position]) := by
            intro lexeme member
            rcases List.mem_append.mp member with inLead | isPiece
            · exact quiet lexeme inLead
            · rw [List.mem_singleton.mp isPiece]
              exact ⟨blank, by simpa [Piece.lexeme] using pieceOnLine.2⟩
          obtain ⟨tokens, left, same, quietLeft, spells⟩ :=
            inductionHypothesis quietLead restOnLine (position.advance piece.chars)
          rw [sameRow] at spells
          refine ⟨tokens, left, ?_, quietLeft, ?_⟩
          · rw [if_neg Bool.false_ne_true, same]
          · rw [Spells, List.filter_cons_of_neg (by simp [word])]
            exact spells

/-! ## Blanks and comments -/

def lexemesOf (position : Position) : List Piece → List Lexeme
  | [] => []
  | piece :: pieces => piece.lexeme position :: lexemesOf (position.advance piece.chars) pieces

theorem tokensFrom_lead (noWord : ∀ piece ∈ pieces, piece.isWord = false) (more : List Piece) :
    tokensFrom lead position (pieces ++ more) =
      tokensFrom (lead ++ lexemesOf position pieces) (position.advance (charsOf pieces)) more := by
  induction pieces generalizing lead position with
  | nil => rw [lexemesOf, List.append_nil, List.nil_append, charsOf_nil, Position.advance_nil]
  | cons piece pieces inductionHypothesis =>
      obtain ⟨noPiece, noOther⟩ := List.forall_mem_cons.mp noWord
      rw [List.cons_append, tokensFrom, noPiece, if_neg Bool.false_ne_true,
        inductionHypothesis noOther, lexemesOf, List.append_assoc, charsOf_cons,
        Position.advance_append]
      rfl

/-! ## Words, marks, blanks and comments -/

def word (text : String) : Piece := ⟨nameKind text, text.toList⟩

def mark (text : String) : Piece := ⟨.fixed, text.toList⟩

def blank (text : String) : Piece := ⟨.blank, text.toList⟩

def comment (text : String) : Piece := ⟨.comment, text.toList⟩

theorem isOnLine_word (inLine : '\n' ∉ text.toList) : (word text).IsOnLine := by
  refine ⟨?_, inLine⟩
  rw [word, nameKind]
  split <;> rintro ⟨⟩

/-- No name goes on into these characters. -/
def EndsWord (rest : List Char) : Prop :=
  ∀ c ∈ rest.head?, Text.isIdentifierRest c = false

/-- No run of blanks goes on into these characters. -/
def EndsBlank (rest : List Char) : Prop :=
  ∀ c ∈ rest.head?, isBlank c = false

theorem endsWord_cons {c : Char} (ends : Text.isIdentifierRest c = false) :
    EndsWord (c :: rest) := by
  rintro _ ⟨⟩
  exact ends

theorem endsBlank_cons {c : Char} (ends : isBlank c = false) : EndsBlank (c :: rest) := by
  rintro _ ⟨⟩
  exact ends

theorem endsBlank_of_isAsciiName {cs : List Char} (isName : TypeExpression.isAsciiName cs = true) :
    EndsBlank (cs ++ rest) := by
  cases cs with
  | nil => cases isName
  | cons first others =>
      rw [TypeExpression.isAsciiName, Bool.and_eq_true] at isName
      intro c isFirst
      cases isFirst
      exact isBlank_of_isAsciiNameStart isName.1

theorem isCutBefore_word (isName : TypeExpression.isAsciiName text.toList = true)
    (ends : EndsWord rest) : (word text).IsCutBefore rest := by
  cases isText : text.toList with
  | nil => simp [isText, TypeExpression.isAsciiName] at isName
  | cons first others =>
      have taken : rest.takeWhile Text.isIdentifierRest = [] :=
        @Text.takeWhile_append_of_head? [] rest _ (List.forall_mem_nil _) ends
      have dropped : rest.dropWhile Text.isIdentifierRest = rest :=
        @Text.dropWhile_append_of_head? [] rest _ (List.forall_mem_nil _) ends
      refine ⟨first, others, isText, ?_⟩
      rw [cut_of_isAsciiName (isText ▸ isName), taken, dropped, List.append_nil, ← isText,
        String.ofList_toList]
      rfl

theorem isCutBefore_blank {first : Char} {others : List Char}
    (isText : text.toList = first :: others) (areBlank : text.toList.all isBlank = true)
    (ends : EndsBlank rest) :
    (blank text).IsCutBefore rest := by
  rw [isText, List.all_cons, Bool.and_eq_true, List.all_eq_true] at areBlank
  obtain ⟨firstBlank, othersBlank⟩ := areBlank
  refine ⟨first, others, isText, ?_⟩
  rw [cut.eq_def, if_pos firstBlank, Text.dropWhile_append_of_head? othersBlank ends]
  rfl

/-- A line comment goes on to the end of its line, or of the source. -/
theorem isCutBefore_line {inside : List Char} (inLine : '\n' ∉ inside)
    (ends : ∀ c ∈ rest.head?, c = '\n') :
    IsCutBefore ⟨.comment, '/' :: '/' :: inside⟩ rest := by
  have noBreak : ∀ c ∈ inside, decide (c ≠ '\n') = true :=
    fun c member => decide_eq_true fun isBreak => inLine (isBreak ▸ member)
  have stopped : afterLineComment ('/' :: inside ++ rest) = rest :=
    Text.dropWhile_append_of_head? (by simpa using noBreak) (by simpa using ends)
  refine ⟨'/', '/' :: inside, rfl, ?_⟩
  calc cut '/' ('/' :: inside ++ rest)
    _ = (.comment, afterLineComment ('/' :: inside ++ rest)) := rfl
    _ = _ := by rw [stopped]

theorem isCutBefore_comment {inside : List Char} (isText : text.toList = '/' :: '/' :: inside)
    (inLine : '\n' ∉ inside) (rest : List Char) : (comment text).IsCutBefore ('\n' :: rest) := by
  rw [comment, isText]
  exact isCutBefore_line inLine (by rintro _ ⟨⟩; rfl)

end Piece

end AddonBindings.Go
