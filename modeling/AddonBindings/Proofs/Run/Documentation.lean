import AddonBindings.Proofs.Declaration.DocumentationBlock
import AddonBindings.Proofs.Declaration.Reading
import AddonBindings.Proofs.Go.Reading
import AddonBindings.Proofs.Run.Typing

/-!
Contract: the documentation of extracted records.

Owns:
- that the comments of a source are line comments and blocks;
- that extracted records are documented by such comments;
- the form of the documentation of all functions that are extracted from files, and that it
  is read back from the declaration of a member.

Does not own: the form of documentation, which is in `AddonBindings.Proofs.Export.NormalForm`.
-/

namespace AddonBindings

open AddonBindings.Export
open AddonBindings.Files
open AddonBindings.Text

namespace Go

/-! ## Comments of a source -/

private theorem afterBlockComment?_eq_some {cs after : List Char}
    (found : afterBlockComment? cs = some after) :
    ∃ inside, cs = inside ++ '*' :: '/' :: after := by
  induction cs using afterBlockComment?.induct with
  | case1 rest =>
      rw [afterBlockComment?] at found
      cases found
      exact ⟨[], rfl⟩
  | case2 first rest noEnd inductionHypothesis =>
      rw [afterBlockComment?.eq_2 first rest noEnd] at found
      obtain ⟨inside, rfl⟩ := inductionHypothesis found
      exact ⟨first :: inside, rfl⟩
  | case3 => cases found

theorem IsLexedAs.isGoComment {lexeme : Lexeme} {cs after : List Char}
    (isLexed : IsLexedAs lexeme cs after) (isComment : lexeme.kind = .comment) :
    IsGoComment lexeme.text := by
  obtain ⟨first, more, left, -, isCut, isText, -⟩ := isLexed
  obtain ⟨rfl, ⟨isLine, rfl⟩ | ⟨inside, rfl, found⟩⟩ :=
    cut_eq_comment (isCut.trans (congrArg (·, left) isComment))
  · rw [afterLineComment, take_length_sub_dropWhile] at isText
    cases more with
    | nil => cases isLine
    | cons second others =>
        cases isLine
        refine .line isText fun member => ?_
        simpa using List.all_eq_true.mp List.all_takeWhile '\n' member
  · obtain ⟨body, rfl⟩ := afterBlockComment?_eq_some found
    have parts : '*' :: (body ++ '*' :: '/' :: left) = '*' :: (body ++ ['*', '/']) ++ left := by
      simp
    rw [parts, List.length_append, Nat.add_sub_cancel, List.take_left] at isText
    exact .block isText

private theorem isGoComment_of_mem_comments {source : String} {token : Token} {lexeme : Lexeme}
    (member : token ∈ tokens source) (inComments : lexeme ∈ token.comments) :
    IsGoComment lexeme.text := by
  obtain ⟨inLead, isComment⟩ := List.mem_filter.mp inComments
  have isComment := of_decide_eq_true isComment
  rcases (mem_of_mem_tokensAfter member).1 lexeme inLead with isNone | inLexemes
  · cases isNone
  · have noBlank : lexeme.kind ≠ .blank := by
      rw [isComment]
      decide
    obtain ⟨front, after, isLexed⟩ := exists_isLexedAs_of_mem_lexemes inLexemes noBlank
    exact isLexed.isGoComment isComment

def IsCommentIn (tokens : List Token) (comment : Comment) : Prop :=
  ∃ token ∈ tokens, ∃ lexeme ∈ token.comments, lexeme.text = comment.text

theorem IsCommentIn.of_suffix {tokens rest : List Token} {comment : Comment}
    (isIn : IsCommentIn rest comment) (isEnd : rest <:+ tokens) : IsCommentIn tokens comment := by
  obtain ⟨token, member, found⟩ := isIn
  exact ⟨token, isEnd.subset member, found⟩

private theorem isCommentIn_of_mem_commentChildren {first : Token} {others : List Token}
    {comment : Comment} (member : .comment comment ∈ commentChildren first) :
    IsCommentIn (first :: others) comment := by
  obtain ⟨lexeme, inComments, same⟩ := List.mem_map.mp member
  cases same
  exact ⟨first, List.mem_cons_self, lexeme, inComments, rfl⟩

private theorem isCommentIn_of_readTerminator {tokens rest : List Token} {marks : List RootChild}
    (read : readTerminator tokens = some (marks, rest)) {comment : Comment}
    (member : .comment comment ∈ marks) : IsCommentIn tokens comment := by
  cases tokens with
  | nil => cases read
  | cons first others =>
      rw [readTerminator] at read
      split at read
      · cases read
        cases member
      · split at read
        · cases read
          rcases List.mem_append.mp member with isComment | isMark
          · exact isCommentIn_of_mem_commentChildren isComment
          · cases List.mem_singleton.mp isMark
        · cases read

theorem AreRead.isCommentIn {tokens : List Token} {children : List RootChild}
    (areRead : AreRead tokens children) {comment : Comment}
    (member : .comment comment ∈ children) : IsCommentIn tokens comment := by
  induction areRead with
  | nothing => cases member
  | finish others _ => exact isCommentIn_of_mem_commentChildren member
  | node nodeRead terminatorRead _ inductionHypothesis =>
      have isAfter := (readsOver_readNode nodeRead).suffix
      have isRest := (readsOver_readTerminator terminatorRead).suffix
      rcases List.mem_append.mp member with inFront | isLater
      · rcases List.mem_append.mp inFront with isFirst | isNodeOrMark
        · exact isCommentIn_of_mem_commentChildren isFirst
        · rcases List.mem_cons.mp isNodeOrMark with same | isMark
          · cases same
          · exact (isCommentIn_of_readTerminator terminatorRead isMark).of_suffix isAfter
      · exact (inductionHypothesis isLater).of_suffix (isRest.trans isAfter)

/-- The comments between the declarations of a source are line comments and blocks. -/
theorem isGoComment_of_readSource {source : String} {children : List RootChild}
    (read : readSource source = .ok children) {comment : Comment}
    (member : .comment comment ∈ children) : IsGoComment comment.text := by
  obtain ⟨token, isToken, lexeme, inComments, same⟩ :=
    (areRead_of_readSource read).isCommentIn member
  rw [← same]
  exact isGoComment_of_mem_comments isToken inComments

end Go

/-! ## Documentation of records -/

namespace Export

open AddonBindings.Go

/-- An extracted record is documented by comments of its source. -/
theorem IsExtracted.exists_comments {function : ExportedFunction}
    (extracted : IsExtracted function) :
    ∃ comments, (∀ text ∈ comments, IsGoComment text) ∧
      function.documentation = documentation comments := by
  obtain ⟨file, source, children, marked, read, isMarked, isRecord⟩ := extracted
  obtain ⟨before, node, later, rfl, -, isGroup, -, -⟩ := mem_markedFunctions_iff.mp isMarked
  refine ⟨_, List.forall_mem_map.mpr fun comment inGroup => ?_, isRecord.documentation⟩
  rw [isGroup] at inGroup
  have isBefore := mem_of_mem_ownLineComments (mem_ownLineComments_of_mem_commentsAbove inGroup)
  exact isGoComment_of_readSource read (List.mem_append_left _ isBefore)

theorem IsExtracted.isTidy {function : ExportedFunction} (extracted : IsExtracted function) :
    IsTidy function.documentation := by
  obtain ⟨comments, areComments, isText⟩ := extracted.exists_comments
  rw [isText]
  exact isTidy_documentation areComments

/-- The comment in front of the declared member of an extracted record says the same. -/
theorem IsExtracted.exists_memberLines {function : ExportedFunction}
    (extracted : IsExtracted function)
    (plain : ∀ c ∈ function.documentation.toList, isLineBreak c = true → c = '\n') :
    ∃ comment line, Declaration.memberLines function = .ok (comment ++ [line]) ∧
      Declaration.IsReplacement "*/".toList "*\\/".toList function.documentation.toList
        (documentation [String.intercalate "\n" comment]).toList := by
  obtain ⟨signature, stated⟩ := extracted.isTyped.exists_signature?
  refine ⟨_, _, Declaration.memberLines_eq stated, ?_⟩
  exact Declaration.isReplacement_iff.mpr (Declaration.toList_documentation_block
    indentation (by decide) (by decide) extracted.isTidy plain)

end Export

/-- **Documentation of extracted functions.**  All functions that are extracted from files have
documentation without blank lines and without blanks at the ends of lines.  If its only line
break is the line feed, extraction from the comment in front of the declared member gives it
again, with every end of a block comment taken apart. -/
theorem documented_of_extractFiles {tree : FileTree} {sources : List Path}
    {functions : List ExportedFunction}
    (extracted : (extractFiles tree sources).outcome = .ok functions) :
    ∀ function ∈ functions, IsTidy function.documentation ∧
      ((∀ c ∈ function.documentation.toList, isLineBreak c = true → c = '\n') →
        ∃ comment line, Declaration.memberLines function = .ok (comment ++ [line]) ∧
          Declaration.IsReplacement "*/".toList "*\\/".toList function.documentation.toList
            (documentation [String.intercalate "\n" comment]).toList) := by
  intro function member
  have isExtracted := isExtracted_of_extractFiles extracted function member
  exact ⟨isExtracted.isTidy, isExtracted.exists_memberLines⟩

end AddonBindings
