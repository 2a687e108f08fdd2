import AddonBindings.Export.Comment
import AddonBindings.Proofs.Text.Lines
import AddonBindings.Proofs.Text.Trimming

/-!
Contract: the form of documentation.

Owns:
- the two kinds of comments, and the lines of documentation in each;
- documentation as its lines, none of them blank and all of them trimmed;
- tidy texts, which are the documentations of comments;
- the capstone: markers do not show, joined lists of comments have joined documentation,
  and tidy texts printed as comments are read back.

Does not own: documentation in generated code, which is in
`AddonBindings.Proofs.Declaration.DocumentationBlock`.
-/

namespace AddonBindings.Export

open Text

variable {text : String} {inside line : List Char} {comments : List String}

/-! ## Comments -/

/-- A comment as it stands in a source: to the end of its line, or between its two marks. -/
inductive IsGoComment (text : String) : Prop
  | line {inside : List Char} (isText : text.toList = '/' :: '/' :: inside)
      (inLine : '\n' ∉ inside)
  | block {inside : List Char} (isText : text.toList = '/' :: '*' :: (inside ++ ['*', '/']))

private theorem trimChars_lineComment (inside : List Char) :
    trimChars ('/' :: '/' :: inside) = '/' :: '/' :: dropEndWhile isBlank inside := by
  rw [trimChars, List.dropWhile_cons_of_neg (by decide), dropEndWhile_cons (by decide),
    dropEndWhile_cons (by decide)]

theorem trimChars_blockComment (inside : List Char) :
    trimChars ('/' :: '*' :: (inside ++ ['*', '/'])) = '/' :: '*' :: (inside ++ ['*', '/']) := by
  have ends : IsTrimmed ['*', '/'] := trimChars_eq_self_iff.mp rfl
  exact (ends.cons rfl (List.cons_ne_nil _ _) ('*' :: inside)).trimChars_eq

private theorem withoutStop_append (stop cs : List Char) : withoutStop stop (cs ++ stop) = cs := by
  have isSuffix : stop.isSuffixOf (cs ++ stop) = true :=
    List.isSuffixOf_iff_suffix.mpr (List.suffix_append cs stop)
  rw [withoutStop, if_pos isSuffix, List.length_append, Nat.add_sub_cancel]
  exact List.take_left

private theorem bareLines_blockComment (inside : List Char) :
    bareLines ('/' :: '*' :: (inside ++ ['*', '/'])) = (splitLines inside).map bareLine := by
  have opened : withoutStart ['/', '*'] ('/' :: '*' :: (inside ++ ['*', '/'])) =
      inside ++ ['*', '/'] := rfl
  rw [bareLines, opened, withoutStop_append]
  rintro _ ⟨⟩

/-- No block comment is a marker. -/
theorem documentationLines_blockComment
    (isText : text.toList = '/' :: '*' :: (inside ++ ['*', '/'])) :
    documentationLines text =
      ((splitLines inside).map bareLine).filter fun line => !line.isEmpty := by
  have noMarker : isExportMarker text = false := by
    rw [isExportMarker, isText, trimChars_blockComment]
    rfl
  rw [documentationLines, noMarker, isText, trimChars_blockComment, bareLines_blockComment]
  rfl

/-- A line comment that is no marker has at most one line of documentation. -/
theorem documentationLines_lineComment (isText : text.toList = '/' :: '/' :: inside)
    (noMarker : isExportMarker text = false) :
    documentationLines text = [trimChars inside].filter fun line => !line.isEmpty := by
  rw [documentationLines, noMarker, isText, trimChars_lineComment, bareLines,
    trimChars_dropEndWhile]
  rfl

/-! ## Lines of documentation -/

/-- A line that is not blank, without blanks at its ends. -/
structure IsNormalLine (line : List Char) : Prop where
  filled : line ≠ []
  trimmed : IsTrimmed line
  oneLine : '\n' ∉ line

private theorem mem_of_mem_bareLine {c : Char} (member : c ∈ bareLine line) : c ∈ line :=
  mem_of_mem_trimChars ((List.dropWhile_sublist _).mem (mem_of_mem_trimChars member))

private theorem isNormalLine_of_mem_documentationLines (isComment : IsGoComment text)
    (member : line ∈ documentationLines text) : IsNormalLine line := by
  cases isComment with
  | line isText inLine =>
      cases marked : isExportMarker text with
      | true =>
          rw [documentationLines, marked] at member
          cases member
      | false =>
          rw [documentationLines_lineComment isText marked, List.mem_filter,
            List.mem_singleton] at member
          obtain ⟨rfl, filled⟩ := member
          refine ⟨by simpa using filled, isTrimmed_trimChars _, fun isBreak => inLine ?_⟩
          exact mem_of_mem_trimChars isBreak
  | block isText =>
      rw [documentationLines_blockComment isText, List.mem_filter, List.mem_map] at member
      obtain ⟨⟨bare, inLines, rfl⟩, filled⟩ := member
      refine ⟨by simpa using filled, isTrimmed_trimChars _, fun isBreak => ?_⟩
      exact (isOneLine_of_mem_splitLines inLines).lineFeed_not_mem (mem_of_mem_bareLine isBreak)

/-- A line that is printed as a comment is read back, whatever it looks like. -/
theorem documentationLines_printed (filled : line ≠ []) (trimmed : IsTrimmed line) :
    documentationLines ("// " ++ String.ofList line) = [line] := by
  have isText : ("// " ++ String.ofList line).toList = '/' :: '/' :: ' ' :: line := by
    simp [String.toList_append]
  have noMarker : isExportMarker ("// " ++ String.ofList line) = false := by
    have whole : IsTrimmed ('/' :: '/' :: ' ' :: line) := trimmed.cons rfl filled ['/', ' ']
    rw [isExportMarker, isText, whole.trimChars_eq]
    rfl
  have bare : trimChars (' ' :: line) = line := trimmed.trimChars_eq
  rw [documentationLines_lineComment isText noMarker, bare]
  simp [filled]

/-! ## Documentation -/

def documentationLinesOf (comments : List String) : List (List Char) :=
  comments.flatMap documentationLines

theorem documentation_eq (comments : List String) :
    documentation comments =
      String.intercalate "\n" ((documentationLinesOf comments).map String.ofList) := rfl

theorem toList_documentation (comments : List String) :
    (documentation comments).toList = ['\n'].intercalate (documentationLinesOf comments) := by
  have same (lines : List (List Char)) : (lines.map String.ofList).map String.toList = lines := by
    rw [List.map_map]
    exact (List.map_congr_left fun line _ => String.toList_ofList).trans (List.map_id _)
  rw [documentation_eq, String.toList_intercalate, same]
  rfl

private theorem ne_nil_of_mem_documentationLines (member : line ∈ documentationLines text) :
    line ≠ [] := by
  rw [documentationLines] at member
  split at member
  · cases member
  · simpa using (List.mem_filter.mp member).2

theorem documentation_eq_empty_iff :
    documentation comments = "" ↔ documentationLinesOf comments = [] := by
  rw [← String.toList_eq_nil_iff, toList_documentation]
  constructor
  · intro isEmpty
    cases lines : documentationLinesOf comments with
    | nil => rfl
    | cons line rest =>
        have inLines : line ∈ comments.flatMap documentationLines := by
          rw [← documentationLinesOf, lines]
          exact List.mem_cons_self
        obtain ⟨text, -, member⟩ := List.mem_flatMap.mp inLines
        have filled := ne_nil_of_mem_documentationLines member
        rw [lines] at isEmpty
        cases rest with
        | nil =>
            rw [List.intercalate_singleton] at isEmpty
            exact absurd isEmpty filled
        | cons next others =>
            rw [List.intercalate_cons_cons, List.append_assoc] at isEmpty
            exact absurd (List.append_eq_nil_iff.mp isEmpty).1 filled
  · intro isEmpty
    rw [isEmpty]
    rfl

private theorem isNormalLine_of_mem_documentationLinesOf
    (areComments : ∀ text ∈ comments, IsGoComment text)
    (member : line ∈ documentationLinesOf comments) : IsNormalLine line := by
  obtain ⟨text, inComments, inText⟩ := List.mem_flatMap.mp member
  exact isNormalLine_of_mem_documentationLines (areComments text inComments) inText

/-- Documentation is split into the lines that it is joined from. -/
theorem splitAtMark_documentation (areComments : ∀ text ∈ comments, IsGoComment text)
    (filled : documentation comments ≠ "") :
    splitAtMark '\n' (documentation comments).toList = documentationLinesOf comments := by
  rw [toList_documentation]
  exact splitAtMark_intercalate (mt documentation_eq_empty_iff.mpr filled) fun line inLines =>
    (isNormalLine_of_mem_documentationLinesOf areComments inLines).oneLine

/-- A text without blank lines, none of which has blanks at its ends. -/
def IsTidy (text : String) : Prop :=
  text = "" ∨ ∀ line ∈ splitText '\n' text, line ≠ "" ∧ trim line = line

theorem isTidy_documentation (areComments : ∀ text ∈ comments, IsGoComment text) :
    IsTidy (documentation comments) := by
  by_cases filled : documentation comments = ""
  · exact .inl filled
  · refine .inr fun line member => ?_
    rw [splitText, splitAtMark_documentation areComments filled] at member
    obtain ⟨characters, inLines, rfl⟩ := List.mem_map.mp member
    have isLine := isNormalLine_of_mem_documentationLinesOf areComments inLines
    refine ⟨mt String.ofList_eq_empty_iff.mp isLine.filled, ?_⟩
    rw [trim, String.toList_ofList, isLine.trimmed.trimChars_eq]

/-- Only comments that are no markers count. -/
theorem documentation_filter (comments : List String) :
    documentation (comments.filter fun text => !isExportMarker text) = documentation comments := by
  have same : documentationLinesOf (comments.filter fun text => !isExportMarker text) =
      documentationLinesOf comments := by
    induction comments with
    | nil => rfl
    | cons text rest inductionHypothesis =>
        rw [documentationLinesOf, documentationLinesOf] at inductionHypothesis ⊢
        cases marked : isExportMarker text with
        | true =>
            have noLines : documentationLines text = [] := by rw [documentationLines, marked]; rfl
            rw [List.filter_cons_of_neg (by simp [marked]), List.flatMap_cons, noLines,
              List.nil_append, inductionHypothesis]
        | false =>
            rw [List.filter_cons_of_pos (by simp [marked]), List.flatMap_cons, List.flatMap_cons,
              inductionHypothesis]
  rw [documentation_eq, documentation_eq, same]

/-- Documentation of joined lists is joined by a line feed, where there is any. -/
theorem documentation_append (comments more : List String) :
    documentation (comments ++ more) =
      String.intercalate "\n" ([documentation comments, documentation more].filter (· ≠ "")) := by
  have joined : documentationLinesOf (comments ++ more) =
      documentationLinesOf comments ++ documentationLinesOf more := List.flatMap_append
  have filled {texts : List String} (some : documentation texts ≠ "") :
      (documentationLinesOf texts).map String.ofList ≠ [] :=
    mt List.map_eq_nil_iff.mp (mt documentation_eq_empty_iff.mpr some)
  rw [documentation_eq, joined, List.map_append]
  by_cases front : documentation comments = ""
  · rw [documentation_eq_empty_iff.mp front, List.map_nil, List.nil_append, ← documentation_eq]
    by_cases back : documentation more = ""
    · simp [front, back]
    · simp [front, back]
  · by_cases back : documentation more = ""
    · rw [documentation_eq_empty_iff.mp back, List.map_nil, List.append_nil, ← documentation_eq]
      simp [front, back]
    · rw [String.intercalate_append_of_ne_nil (filled front) (filled back), ← documentation_eq,
        ← documentation_eq]
      simp [front, back, String.intercalate_cons_cons]

private theorem documentationLinesOf_printed {lines : List (List Char)}
    (normal : ∀ line ∈ lines, IsNormalLine line) :
    documentationLinesOf ((lines.map String.ofList).map ("// " ++ ·)) = lines := by
  induction lines with
  | nil => rfl
  | cons line rest inductionHypothesis =>
      obtain ⟨lineNormal, restNormal⟩ := List.forall_mem_cons.mp normal
      have printed := documentationLines_printed lineNormal.filled lineNormal.trimmed
      have others := inductionHypothesis restNormal
      rw [documentationLinesOf] at others ⊢
      rw [List.map_cons, List.map_cons, List.flatMap_cons, printed, others]
      rfl

theorem IsTidy.isNormalLine (tidy : IsTidy text) (filled : text ≠ "") :
    ∀ line ∈ splitAtMark '\n' text.toList, IsNormalLine line := by
  intro line member
  obtain ⟨isFilled, isTrim⟩ := tidy.resolve_left filled _ (List.mem_map_of_mem member)
  rw [← String.toList_inj, trim, String.toList_ofList, String.toList_ofList] at isTrim
  exact ⟨mt String.ofList_eq_empty_iff.mpr isFilled, trimChars_eq_self_iff.mp isTrim,
    not_mem_of_mem_splitAtMark member⟩

/-- A tidy text is the documentation that is printed with one comment for each line. -/
theorem IsTidy.documentation_printed (tidy : IsTidy text) :
    documentation ((splitText '\n' text).map ("// " ++ ·)) = text := by
  by_cases filled : text = ""
  · rw [filled]
    rfl
  · rw [← String.toList_inj, toList_documentation, splitText,
      documentationLinesOf_printed (tidy.isNormalLine filled), intercalate_splitAtMark]

/-- **The form of documentation.**  For all comments of a source, documentation is empty or
consists of lines that are not blank and have no blanks at their ends.  Markers do not show in
it, wherever they stand.  The documentation of joined lists is that of both, joined by a line
feed where there is any.  Printed with one comment for each line, it is read back, and so is
every text of this form. -/
theorem documentation_normal (areComments : ∀ text ∈ comments, IsGoComment text) :
    (documentation comments = "" ∨
      ∀ line ∈ splitText '\n' (documentation comments), line ≠ "" ∧ trim line = line) ∧
    (∀ others : List String,
      (others.filter fun text => !isExportMarker text) =
          (comments.filter fun text => !isExportMarker text) →
        documentation others = documentation comments) ∧
    (∀ more, documentation (comments ++ more) =
      String.intercalate "\n" ([documentation comments, documentation more].filter (· ≠ ""))) ∧
    documentation ((splitText '\n' (documentation comments)).map ("// " ++ ·)) =
      documentation comments ∧
    ∀ text, IsTidy text → documentation ((splitText '\n' text).map ("// " ++ ·)) = text := by
  have tidy := isTidy_documentation areComments
  refine ⟨tidy, ?_, documentation_append comments, tidy.documentation_printed,
    fun text isTidy => isTidy.documentation_printed⟩
  intro others same
  rw [← documentation_filter others, same, documentation_filter]

/-- Comments with nothing in them, with stars, with a marker and with unusual blanks. -/
def untidyComments : List String :=
  ["/**/", "/***/", "//", "// one \u2028 line\u00A0", "//export Tidy", "/*\n ** more\r\n\t*/"]

theorem untidyComments_normal :
    (∀ text ∈ untidyComments, IsGoComment text) ∧
      documentation untidyComments = "one \u2028 line\nmore" ∧
      (∀ line ∈ splitText '\n' (documentation untidyComments), line ≠ "" ∧ trim line = line) ∧
      documentation ((splitText '\n' (documentation untidyComments)).map ("// " ++ ·)) =
        documentation untidyComments := by
  have areComments : ∀ text ∈ untidyComments, IsGoComment text := by
    simp only [untidyComments, List.forall_mem_cons]
    exact ⟨@IsGoComment.block _ [] rfl, @IsGoComment.block _ ['*'] rfl,
      @IsGoComment.line _ [] rfl (by decide), .line rfl (by decide), .line rfl (by decide),
      @IsGoComment.block _ "\n ** more\r\n\t".toList rfl, List.forall_mem_nil _⟩
  have isText : documentation untidyComments = "one \u2028 line\nmore" := by decide +kernel
  obtain ⟨lines, -, -, printed, -⟩ := documentation_normal areComments
  refine ⟨areComments, isText, lines.resolve_left ?_, printed⟩
  rw [isText]
  decide

end AddonBindings.Export
