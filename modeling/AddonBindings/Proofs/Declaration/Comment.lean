import AddonBindings.Declaration.Interface
import AddonBindings.Proofs.Text.Token

/-!
Contract: documentation stays inside its comment.

Owns: the law that the lines of a documentation block are read as nothing, whatever
the documentation says.

Does not own: the members between the blocks, which are in
`AddonBindings.Proofs.Declaration.Reading`.
-/

namespace AddonBindings.Declaration

open Text

def isInComment : Reading → Bool
  | .blockComment | .blockCommentStar => true
  | _ => false

/-- Reading the characters inside a block comment finds no token, and the comment is
still open. -/
def StaysInComment (before : Reading) (characters : List Char) : Prop :=
  ∃ after, before.scan characters = ([], after) ∧ isInComment after = true

private theorem staysInComment_nil {before : Reading} (inside : isInComment before = true) :
    StaysInComment before [] :=
  ⟨before, rfl, inside⟩

private theorem staysInComment_cons {before middle : Reading} {c : Char} {rest : List Char}
    (steps : before.step c = ([], middle)) (stays : StaysInComment middle rest) :
    StaysInComment before (c :: rest) := by
  obtain ⟨after, scanned, inside⟩ := stays
  refine ⟨after, ?_, inside⟩
  simp [Reading.scan, steps, scanned]

private theorem staysInComment_star {before : Reading} (inside : isInComment before = true)
    {rest : List Char} (stays : StaysInComment .blockCommentStar rest) :
    StaysInComment before ('*' :: rest) := by
  refine staysInComment_cons ?_ stays
  cases before with
  | blockComment => rfl
  | blockCommentStar => rfl
  | _ => cases inside

/-- A character that is no star leaves the comment open, unless it is a slash right
after a star. -/
theorem staysInComment_other {before : Reading} (inside : isInComment before = true)
    {c : Char} (noStar : c ≠ '*') (noEnd : before = .blockCommentStar → c ≠ '/')
    {rest : List Char} (stays : StaysInComment .blockComment rest) :
    StaysInComment before (c :: rest) := by
  refine staysInComment_cons ?_ stays
  cases before with
  | blockComment => simp [Reading.step, noStar]
  | blockCommentStar => simp [Reading.step, noStar, noEnd rfl]
  | _ => cases inside

/-- With every end taken apart, no text ends the comment that it stands in. -/
theorem staysInComment_breakBlockEnds (cs : List Char) {before : Reading}
    (inside : isInComment before = true)
    (noEnd : before = .blockCommentStar → cs.head? ≠ some '/') :
    StaysInComment before (breakBlockEnds cs) := by
  induction cs using breakBlockEnds.induct generalizing before with
  | case1 rest inductionHypothesis =>
      rw [breakBlockEnds]
      have broken : StaysInComment .blockComment (breakBlockEnds rest) :=
        inductionHypothesis rfl (fun same => by cases same)
      have slash : StaysInComment .blockComment ('/' :: breakBlockEnds rest) :=
        staysInComment_other rfl (by decide) (fun same => by cases same) broken
      have backslash : StaysInComment .blockCommentStar ('\\' :: '/' :: breakBlockEnds rest) :=
        staysInComment_other rfl (by decide) (fun _ => by decide) slash
      exact staysInComment_star inside backslash
  | case2 c rest noPair inductionHypothesis =>
      rw [breakBlockEnds]
      · by_cases isStar : c = '*'
        · rw [isStar]
          have unended : rest.head? ≠ some '/' := by
            intro slash
            cases rest with
            | nil => cases slash
            | cons d others => exact noPair others isStar (by rw [Option.some.inj slash])
          exact staysInComment_star inside (inductionHypothesis rfl fun _ => unended)
        · have unended (same : before = .blockCommentStar) : c ≠ '/' := by
            intro slash
            exact noEnd same (by rw [List.head?_cons, slash])
          exact staysInComment_other inside isStar unended
            (inductionHypothesis rfl (fun same => by cases same))
      · exact noPair
  | case3 => exact staysInComment_nil inside

private theorem scan_documentationLine (line : List Char) :
    Reading.blockComment.scan ((indentation ++ documentationLine line).toList ++ ['\n']) =
      ([], .blockComment) := by
  have ended {before : Reading} (inside : isInComment before = true) :
      before.scan ['\n'] = ([], .blockComment) := by
    cases before with
    | blockComment => rfl
    | blockCommentStar => rfl
    | _ => cases inside
  unfold documentationLine
  split
  · decide
  · have opening : Reading.blockComment.scan (indentation.toList ++ " * ".toList) =
        ([], .blockComment) := by decide
    have stays : StaysInComment .blockComment (breakBlockEnds line) :=
      staysInComment_breakBlockEnds line rfl (fun same => by cases same)
    obtain ⟨after, scanned, inside⟩ := stays
    have whole := Reading.scan_append opening (Reading.scan_append scanned (ended inside))
    simpa [String.toList_append] using whole

/-- The lines of a documentation block are read as nothing. -/
theorem reads_documentationBlock (documentation : String) :
    Reads (linesText ((documentationBlock documentation).map (indentation ++ ·))) [] := by
  unfold documentationBlock
  split
  · rfl
  · have opening : Reading.between.scan (linesText [indentation ++ "/**"]) = ([], .blockComment) := by
      decide
    have closing : Reading.blockComment.scan (linesText [indentation ++ " */"]) = ([], .between) := by
      decide
    have inside (lines : List (List Char)) :
        Reading.blockComment.scan
          (linesText ((lines.map documentationLine).map (indentation ++ ·))) =
            ([], .blockComment) := by
      induction lines with
      | nil => rfl
      | cons line rest inductionHypothesis =>
          have first := scan_documentationLine line
          rw [List.map_cons, List.map_cons, linesText_cons, ← List.singleton_append,
            ← List.append_assoc]
          exact Reading.scan_append first inductionHypothesis
    have whole := Reading.scan_append opening
      (Reading.scan_append (inside (splitAtMark '\n' documentation.toList)) closing)
    rw [← linesText_append, ← linesText_append] at whole
    simpa using whole

end AddonBindings.Declaration
