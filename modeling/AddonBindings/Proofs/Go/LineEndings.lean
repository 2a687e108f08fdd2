import Mathlib.Data.List.Forall2
import AddonBindings.Proofs.Go.Piece
import AddonBindings.Proofs.Go.Returns.Lexeme

/-!
Contract: the tokens of a source with and without returns at the ends of its lines.

Owns:
- comments with returns;
- lexemes and tokens that are alike: on the same rows, the same words, comments that differ
  in their returns only;
- the law that a source and the source with returns have lexemes that are alike, unless a line
  ends inside an interpreted text; then the source with returns has an unknown lexeme.

Does not own: what is read from tokens that are alike, which is in
`AddonBindings.Proofs.Go.Alike`.
-/

namespace AddonBindings.Go

open Text

variable {cs ds after : List Char} {first : Char} {rest : List Char} {position place : Position}

/-! ## Comments with returns -/

/-- A comment whose lines end with returns: the return behind a line comment belongs to it, and
those inside a block stand before its line feeds. -/
def commentWithReturns (comment : String) : String :=
  match comment.toList with
  | '/' :: '/' :: _ => comment ++ "\r"
  | cs => String.ofList (withReturns cs)

theorem commentWithReturns_line {comment : String} {inside : List Char}
    (isText : comment.toList = '/' :: '/' :: inside) :
    commentWithReturns comment = comment ++ "\r" := by
  rw [commentWithReturns, isText]
  rfl

theorem commentWithReturns_block {comment : String}
    (noLine : ∀ inside, comment.toList ≠ '/' :: '/' :: inside) :
    commentWithReturns comment = String.ofList (withReturns comment.toList) := by
  rw [commentWithReturns]
  split
  · rename_i isText
    exact absurd isText (noLine _)
  · rfl

/-- The comment with returns, or without one if the source ends behind it. -/
def IsCommentLike (comment other : String) : Prop :=
  other = commentWithReturns comment ∨ other = comment

/-! ## Lexemes that are alike -/

/-- The characters of a lexeme with returns are as good as those without. -/
structure IsSpelledLike (kind : LexemeKind) (chars others : List Char) : Prop where
  word : kind = .name ∨ kind = .fixed → others = chars
  lineFeeds : others.count '\n' = chars.count '\n'
  comment : kind = .comment → IsCommentLike (String.ofList chars) (String.ofList others)

/-- A line ends inside the interpreted text. -/
def IsBrokenText (kind : LexemeKind) (chars : List Char) : Prop :=
  kind = .text ∧ chars.head? = some '"' ∧ '\n' ∈ chars

instance (kind : LexemeKind) (chars : List Char) : Decidable (IsBrokenText kind chars) :=
  inferInstanceAs (Decidable (_ ∧ _))

/-- The characters behind a lexeme with returns: all of their lines are ended with returns, but
a line comment takes the first return with it. -/
def AreReturned (cs ds : List Char) : Prop :=
  ds = withReturns cs ∨ ∃ rest, cs = '\n' :: rest ∧ ds = '\n' :: withReturns rest

/-- How the first lexeme of characters is cut from them with and without returns. -/
inductive IsCutAlike (cs ds : List Char) : Prop
  /-- The lexemes are alike. -/
  | alike (piece other : Piece) {after later : List Char}
      (isText : cs = piece.chars ++ after) (otherIsText : ds = other.chars ++ later)
      (isCut : piece.IsCutBefore after) (otherIsCut : other.IsCutBefore later)
      (kind : other.kind = piece.kind) (spelled : IsSpelledLike piece.kind piece.chars other.chars)
      (unbroken : ¬ IsBrokenText piece.kind piece.chars) (returned : AreReturned after later)
  /-- A line ends inside an interpreted text, whose mark is then unknown. -/
  | broken (piece other : Piece) {after later : List Char}
      (isText : cs = piece.chars ++ after) (otherIsText : ds = other.chars ++ later)
      (isCut : piece.IsCutBefore after) (otherIsCut : other.IsCutBefore later)
      (isBroken : IsBrokenText piece.kind piece.chars) (unknown : other.kind = .unknown)

private theorem isSpelledLike_withReturns {kind : LexemeKind} {chars : List Char}
    (inLine : kind = .name ∨ kind = .fixed → '\n' ∉ chars)
    (noLine : kind = .comment → ∀ inside, chars ≠ '/' :: '/' :: inside) :
    IsSpelledLike kind chars (withReturns chars) where
  word isWord := withReturns_of_not_mem (inLine isWord)
  lineFeeds := count_withReturns chars
  comment isComment := by
    left
    rw [commentWithReturns_block (by simpa using noLine isComment), String.toList_ofList]

/-- A line feed is a blank, with whatever stands before it. -/
theorem isCutAlike_lineFeed (returned : AreReturned ('\n' :: rest) ds) :
    IsCutAlike ('\n' :: rest) ds := by
  let blanks := rest.takeWhile isBlank
  let after := rest.dropWhile isBlank
  have isRest : rest = blanks ++ after := List.takeWhile_append_dropWhile.symm
  have returnedRest : withReturns rest = withReturns blanks ++ withReturns after := by
    rw [← withReturns_append, ← isRest]
  have isCut : cut '\n' rest = (.blank, after) := rfl
  have returnedIsCut (first : Char) (blank : isBlank first = true) :
      cut first (withReturns rest) = (.blank, withReturns after) := by
    rw [cut.eq_def, if_pos blank, dropWhile_withReturns rfl]
  have returnIsCut : cut '\r' ('\n' :: withReturns rest) = (.blank, withReturns after) :=
    returnedIsCut '\r' rfl
  have spelled (others : List Char) (same : others.count '\n' = ('\n' :: blanks).count '\n') :
      IsSpelledLike .blank ('\n' :: blanks) others :=
    ⟨by simp, same, by rintro ⟨⟩⟩
  have isPiece : Piece.IsCutBefore ⟨.blank, '\n' :: blanks⟩ after :=
    ⟨'\n', blanks, rfl, by rw [← isRest, isCut]⟩
  rcases returned with rfl | ⟨others, same, rfl⟩
  · refine .alike ⟨.blank, '\n' :: blanks⟩ ⟨.blank, withReturns ('\n' :: blanks)⟩
      (congrArg _ isRest) ?_ isPiece ?_ rfl (spelled _ (count_withReturns _))
      (by rintro ⟨⟨⟩, -⟩) (.inl rfl)
    · rw [← withReturns_append, List.cons_append, ← isRest]
    · refine ⟨'\r', '\n' :: withReturns blanks, rfl, ?_⟩
      rw [List.cons_append, ← returnedRest, returnIsCut]
  · cases same
    refine .alike ⟨.blank, '\n' :: blanks⟩ ⟨.blank, '\n' :: withReturns blanks⟩
      (congrArg _ isRest) (congrArg _ returnedRest) isPiece ?_ rfl (spelled _ ?_)
      (by rintro ⟨⟨⟩, -⟩) (.inl rfl)
    · exact ⟨'\n', withReturns blanks, rfl, by rw [← returnedRest, returnedIsCut _ rfl]⟩
    · rw [List.count_cons_self, List.count_cons_self, count_withReturns]

private theorem isCutAlike_line (rest : List Char) :
    IsCutAlike ('/' :: '/' :: rest) ('/' :: '/' :: withReturns rest) := by
  have parts : rest = rest.takeWhile (· ≠ '\n') ++ rest.dropWhile (· ≠ '\n') :=
    List.takeWhile_append_dropWhile.symm
  have inLine : '\n' ∉ rest.takeWhile (· ≠ '\n') := by
    intro member
    simpa using List.all_eq_true.mp List.all_takeWhile '\n' member
  generalize rest.takeWhile (· ≠ '\n') = inside at parts inLine
  cases isAfter : rest.dropWhile (· ≠ '\n') with
  | nil =>
      -- the source ends behind the comment, so that no return is added to it
      rw [isAfter, List.append_nil] at parts
      rw [parts, withReturns_of_not_mem inLine]
      exact .alike ⟨.comment, '/' :: '/' :: inside⟩ ⟨.comment, '/' :: '/' :: inside⟩
        (List.append_nil _).symm (List.append_nil _).symm
        (Piece.isCutBefore_line inLine (by rintro _ ⟨⟩))
        (Piece.isCutBefore_line inLine (by rintro _ ⟨⟩)) rfl
        ⟨fun _ => rfl, rfl, fun _ => .inr rfl⟩ (by rintro ⟨⟨⟩, -⟩) (.inl rfl)
  | cons c after =>
      have isFeed : c = '\n' := by
        have stops := List.head?_dropWhile_not (fun c => decide (c ≠ '\n')) rest
        rw [isAfter] at stops
        simpa using stops
      rw [isAfter, isFeed] at parts
      have returned : '/' :: '/' :: withReturns rest =
          '/' :: '/' :: (inside ++ ['\r']) ++ '\n' :: withReturns after := by
        rw [parts, withReturns_append, withReturns_of_not_mem inLine, withReturns_lineFeed]
        simp
      have returnInLine : '\n' ∉ inside ++ ['\r'] := by simpa using inLine
      have isComment : IsSpelledLike .comment ('/' :: '/' :: inside)
          ('/' :: '/' :: (inside ++ ['\r'])) := by
        refine ⟨by simp, ?_, fun _ => .inl ?_⟩
        · rw [List.count_eq_zero_of_not_mem (by simpa using returnInLine),
            List.count_eq_zero_of_not_mem (by simpa using inLine)]
        · rw [commentWithReturns_line (String.toList_ofList)]
          apply String.toList_injective
          simp
      exact .alike ⟨_, _⟩ ⟨_, _⟩ (congrArg (fun rest => '/' :: '/' :: rest) parts) returned
        (Piece.isCutBefore_line inLine (by rintro _ ⟨⟩; rfl))
        (Piece.isCutBefore_line returnInLine (by rintro _ ⟨⟩; rfl)) rfl isComment
        (by rintro ⟨⟨⟩, -⟩) (.inr ⟨after, rfl, rfl⟩)

private theorem isCutAlike (returned : AreReturned (first :: rest) ds) :
    IsCutAlike (first :: rest) ds := by
  by_cases isFeed : first = '\n'
  · rw [isFeed] at returned ⊢
    exact isCutAlike_lineFeed returned
  have isReturned : ds = first :: withReturns rest := by
    rcases returned with isReturned | ⟨others, same, -⟩
    · rw [isReturned, withReturns_cons isFeed]
    · exact absurd (List.cons_eq_cons.mp same).1 isFeed
  subst isReturned
  cases isCutWithReturns isFeed rest with
  | same isRest isCut returns inLine isBlock =>
      rename_i kind inside after
      have parts : first :: withReturns inside = withReturns (first :: inside) :=
        (withReturns_cons isFeed inside).symm
      refine .alike ⟨kind, first :: inside⟩ ⟨kind, first :: withReturns inside⟩
        (congrArg _ isRest) ?_ ⟨first, inside, rfl, isRest ▸ isCut⟩
        ⟨first, withReturns inside, rfl, ?_⟩ rfl ?_ ?_ (.inl rfl)
      · rw [isRest, withReturns_append, List.cons_append]
      · rw [← withReturns_append, ← isRest, returns]
      · dsimp only
        rw [parts]
        refine isSpelledLike_withReturns (fun isWord => ?_) fun isComment others same => ?_
        · rw [List.mem_cons, not_or]
          exact ⟨Ne.symm isFeed, inLine (isWord.imp_right .inl)⟩
        · obtain ⟨-, isInside⟩ := List.cons_eq_cons.mp same
          refine isBlock isComment ?_
          rw [isRest, isInside]
          rfl
      · rintro ⟨isText, isMark, isBroken⟩
        rcases List.mem_cons.mp isBroken with isFirst | inInside
        · exact isFeed isFirst.symm
        · exact inLine (.inr (.inr ⟨isText, Option.some.inj isMark⟩)) inInside
  | line isComment =>
      obtain ⟨rfl, isLine⟩ := isComment
      cases rest with
      | nil => cases isLine
      | cons second rest =>
          cases isLine
          rw [withReturns_cons (by decide)]
          exact isCutAlike_line rest
  | broken isRest isMark isBroken isCut returns =>
      rename_i inside after
      subst isMark
      exact .broken ⟨.text, '"' :: inside⟩ ⟨.unknown, ['"']⟩ (congrArg _ isRest) rfl
        ⟨'"', inside, rfl, isRest ▸ isCut⟩ ⟨'"', [], rfl, returns⟩
        ⟨rfl, rfl, List.mem_cons_of_mem _ isBroken⟩ rfl

/-- Lexemes on the same rows that are spelled alike. -/
structure Lexeme.IsLike (lexeme other : Lexeme) : Prop where
  kind : other.kind = lexeme.kind
  spelled : IsSpelledLike lexeme.kind lexeme.text.toList other.text.toList
  start : other.start.row = lexeme.start.row
  stop : other.stop.row = lexeme.stop.row

/-- A line ends inside the interpreted text. -/
def Lexeme.IsBroken (lexeme : Lexeme) : Prop :=
  IsBrokenText lexeme.kind lexeme.text.toList

/-- The lexemes are alike, or a line ends inside an interpreted text. -/
def AreLexedAlike (lexemes others : List Lexeme) : Prop :=
  (List.Forall₂ Lexeme.IsLike lexemes others ∧ ∀ lexeme ∈ lexemes, ¬ lexeme.IsBroken) ∨
    (∃ lexeme ∈ lexemes, lexeme.IsBroken) ∧ ∃ other ∈ others, other.kind = .unknown

theorem AreLexedAlike.cons {lexeme other : Lexeme} {lexemes others : List Lexeme}
    (isLike : lexeme.IsLike other) (unbroken : ¬ lexeme.IsBroken)
    (alike : AreLexedAlike lexemes others) :
    AreLexedAlike (lexeme :: lexemes) (other :: others) := by
  rcases alike with
    ⟨areLike, areUnbroken⟩ | ⟨⟨broken, member, isBroken⟩, unknown, inOthers, isUnknown⟩
  · exact .inl ⟨.cons isLike areLike, List.forall_mem_cons.mpr ⟨unbroken, areUnbroken⟩⟩
  · exact .inr ⟨⟨broken, List.mem_cons_of_mem _ member, isBroken⟩, unknown,
      List.mem_cons_of_mem _ inOthers, isUnknown⟩

theorem Piece.IsCutBefore.length_lt {piece : Piece} (isCut : piece.IsCutBefore after) :
    after.length < (piece.chars ++ after).length := by
  obtain ⟨first, more, isPiece, -⟩ := isCut
  rw [isPiece, List.cons_append, List.length_cons, List.length_append]
  omega

private theorem isBroken_lexeme {piece : Piece} :
    (piece.lexeme position).IsBroken ↔ IsBrokenText piece.kind piece.chars := by
  rw [Lexeme.IsBroken, Piece.lexeme, String.toList_ofList]

private theorem isLike_lexeme {piece other : Piece} (kind : other.kind = piece.kind)
    (spelled : IsSpelledLike piece.kind piece.chars other.chars)
    (sameRow : place.row = position.row) :
    (piece.lexeme position).IsLike (other.lexeme place) where
  kind := kind
  spelled := by
    rw [Piece.lexeme, Piece.lexeme, String.toList_ofList, String.toList_ofList]
    exact spelled
  start := sameRow
  stop := by
    rw [Piece.lexeme, Piece.lexeme, Position.row_advance, Position.row_advance, sameRow,
      spelled.lineFeeds]

/-- The lexemes of characters are alike with and without returns, as long as no line ends inside
an interpreted text. -/
theorem areLexedAlike (returned : AreReturned cs ds) (sameRow : place.row = position.row) :
    AreLexedAlike (lexemesFrom position cs) (lexemesFrom place ds) := by
  -- the characters behind two lexemes that are alike are fewer, and returned again
  induction length : cs.length using Nat.strongRecOn generalizing cs ds position place with
  | ind _ inductionHypothesis =>
      cases cs with
      | nil =>
          rcases returned with rfl | ⟨rest, same, -⟩
          · rw [lexemesFrom, withReturns, List.flatMap_nil, lexemesFrom]
            exact .inl ⟨.nil, List.forall_mem_nil _⟩
          · cases same
      | cons first rest =>
          cases isCutAlike returned with
          | @alike piece other after _ isText otherIsText isCut otherIsCut kind spelled unbroken
              later =>
              have isLike := isLike_lexeme kind spelled sameRow
              have shorter : after.length < (first :: rest).length := isText ▸ isCut.length_lt
              rw [isText, otherIsText, Piece.lexemesFrom_append isCut,
                Piece.lexemesFrom_append otherIsCut]
              exact .cons isLike (mt isBroken_lexeme.mp unbroken)
                (inductionHypothesis _ (length ▸ shorter) later isLike.stop rfl)
          | broken _ _ isText otherIsText isCut otherIsCut isBroken unknown =>
              rw [isText, otherIsText, Piece.lexemesFrom_append isCut,
                Piece.lexemesFrom_append otherIsCut]
              exact .inr ⟨⟨_, List.mem_cons_self, isBroken_lexeme.mpr isBroken⟩, _,
                List.mem_cons_self, unknown⟩

/-! ## Sources -/

/-- The source with a return in front of each line feed. -/
def sourceWithReturns (source : String) : String :=
  String.ofList (withReturns source.toList)

/-- No line ends inside an interpreted text of the source. -/
def HasUnbrokenTexts (source : String) : Prop :=
  ∀ lexeme ∈ lexemes source, ¬ lexeme.IsBroken

instance (source : String) : Decidable (HasUnbrokenTexts source) :=
  inferInstanceAs (Decidable (∀ lexeme ∈ lexemes source,
    ¬ IsBrokenText lexeme.kind lexeme.text.toList))

theorem areLexedAlike_lexemes (source : String) :
    AreLexedAlike (lexemes source) (lexemes (sourceWithReturns source)) := by
  rw [lexemes, lexemes, sourceWithReturns, String.toList_ofList]
  by_cases isMarked : ∃ rest, source.toList = '\uFEFF' :: rest
  · obtain ⟨rest, isText⟩ := isMarked
    rw [isText, withReturns_cons (by decide)]
    refine AreLexedAlike.cons ⟨rfl, ⟨by simp, rfl, by simp⟩, rfl, rfl⟩ ?_
      (areLexedAlike (.inl rfl) rfl)
    rintro ⟨⟨⟩, -⟩
  · have noMark (cs : List Char) (unmarked : ∀ rest, cs ≠ '\uFEFF' :: rest) :
        ∀ rest, withReturns cs ≠ '\uFEFF' :: rest := by
      intro rest same
      obtain ⟨others, rfl, -⟩ := exists_of_withReturns_eq_cons (by decide) same
      exact unmarked others rfl
    rw [not_exists] at isMarked
    split
    · rename_i isText
      exact absurd isText (isMarked _)
    · split
      · rename_i isText
        exact absurd isText (noMark _ isMarked _)
      · exact areLexedAlike (.inl rfl) rfl

/-! ## Tokens that are alike -/

/-- Tokens that are alike, with blanks and comments before them that are alike. -/
structure Token.IsLike (token other : Token) : Prop where
  lead : List.Forall₂ Lexeme.IsLike token.lead other.lead
  lexeme : token.lexeme.IsLike other.lexeme

abbrev AreLike (tokens others : List Token) : Prop :=
  List.Forall₂ Token.IsLike tokens others

private theorem areLike_tokensAfter {lead otherLead lexemes others : List Lexeme}
    (leadIsLike : List.Forall₂ Lexeme.IsLike lead otherLead) (sameRow : place.row = position.row)
    (areLike : List.Forall₂ Lexeme.IsLike lexemes others) :
    AreLike (tokensAfter lead position lexemes) (tokensAfter otherLead place others) := by
  induction areLike generalizing lead otherLead position place with
  | nil => exact .cons ⟨leadIsLike, rfl, ⟨by simp, rfl, by simp⟩, sameRow, sameRow⟩ .nil
  | cons isLike _ inductionHypothesis =>
      rw [tokensAfter, tokensAfter, isLike.kind]
      split
      · exact inductionHypothesis (List.rel_append leadIsLike (.cons isLike .nil)) isLike.stop
      · exact .cons ⟨leadIsLike, isLike⟩ (inductionHypothesis .nil isLike.stop)

/-- A source and the source with returns have tokens that are alike. -/
theorem areLike_tokens {source : String} (unbroken : HasUnbrokenTexts source) :
    AreLike (tokens source) (tokens (sourceWithReturns source)) := by
  rcases areLexedAlike_lexemes source with ⟨areLike, -⟩ | ⟨⟨lexeme, member, isBroken⟩, -⟩
  · exact areLike_tokensAfter .nil rfl areLike
  · exact absurd isBroken (unbroken lexeme member)

end AddonBindings.Go
