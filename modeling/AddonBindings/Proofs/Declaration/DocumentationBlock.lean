import AddonBindings.Declaration.Interface
import AddonBindings.Proofs.Export.NormalForm
import AddonBindings.Proofs.Text.Token

/-!
Contract: a documentation block says what it was made from.

Owns:
- replacement of a mark in a text, told without the pass that carries it out;
- what a block holds between its two marks, and the lines of documentation in it;
- the capstone: extraction reads a block back, up to the ends of block comments.

Does not own: that a block is a comment to a reader of the declarations, which is in
`AddonBindings.Proofs.Declaration.Comment`.
-/

namespace AddonBindings.Declaration

open Export Text

variable {cs line : List Char} {lines : List (List Char)} {margin text : String}
  {comments : List String}

/-! ## Taking ends of comments apart -/

/-- One text is the other with a new mark in every place of an old one. -/
def IsReplacement (old new text replaced : List Char) : Prop :=
  ∃ parts, (∀ part ∈ parts, ¬ old <:+: part) ∧ text = old.intercalate parts ∧
    replaced = new.intercalate parts

/-- Ends of comments cannot overlap, so one pass finds all of them. -/
theorem exists_parts_breakBlockEnds (cs : List Char) :
    ∃ first parts, (∀ part ∈ first :: parts, ¬ ['*', '/'] <:+: part) ∧
      cs = ['*', '/'].intercalate (first :: parts) ∧
      breakBlockEnds cs = ['*', '\\', '/'].intercalate (first :: parts) := by
  induction cs using breakBlockEnds.induct with
  | case1 rest inductionHypothesis =>
      obtain ⟨first, parts, free, isRest, isBroken⟩ := inductionHypothesis
      refine ⟨[], first :: parts, List.forall_mem_cons.mpr ⟨by decide, free⟩, ?_, ?_⟩
      · rw [List.intercalate_cons_cons, ← isRest]
        rfl
      · rw [List.intercalate_cons_cons, ← isBroken, breakBlockEnds]
        rfl
  | case2 c rest noPair inductionHypothesis =>
      obtain ⟨first, parts, free, isRest, isBroken⟩ := inductionHypothesis
      obtain ⟨firstFree, partsFree⟩ := List.forall_mem_cons.mp free
      refine ⟨c :: first, parts, List.forall_mem_cons.mpr ⟨?_, partsFree⟩, ?_, ?_⟩
      · intro inFirst
        rcases List.infix_cons_iff.mp inFirst with isPrefix | inside
        · obtain ⟨isStar, slash⟩ := List.cons_prefix_cons.mp isPrefix
          obtain ⟨others, isFirst⟩ := slash
          rw [← isFirst, List.singleton_append, List.intercalate_cons_cons_left] at isRest
          exact noPair _ isStar.symm isRest
        · exact firstFree inside
      · rw [List.intercalate_cons_cons_left, ← isRest]
      · rw [List.intercalate_cons_cons_left, ← isBroken, breakBlockEnds]
        exact noPair
  | case3 =>
      refine ⟨[], [], ?_, rfl, rfl⟩
      decide

private theorem breakBlockEnds_append_blockEnd {part : List Char} (free : ¬ ['*', '/'] <:+: part)
    (rest : List Char) :
    breakBlockEnds (part ++ '*' :: '/' :: rest) =
      part ++ '*' :: '\\' :: '/' :: breakBlockEnds rest := by
  induction part with
  | nil => rw [List.nil_append, breakBlockEnds, List.nil_append]
  | cons c others inductionHypothesis =>
      rw [List.cons_append, breakBlockEnds, inductionHypothesis, List.cons_append]
      · exact fun inside => free (List.infix_cons inside)
      · rintro more rfl starts
        cases others with
        | nil => cases starts
        | cons next left =>
            obtain ⟨rfl, -⟩ := List.cons_eq_cons.mp starts
            exact free (List.prefix_append ['*', '/'] left).isInfix

private theorem breakBlockEnds_eq_self (free : ¬ ['*', '/'] <:+: cs) : breakBlockEnds cs = cs := by
  induction cs using breakBlockEnds.induct with
  | case1 rest inductionHypothesis =>
      exact absurd (List.prefix_append ['*', '/'] rest).isInfix free
  | case2 c rest noPair inductionHypothesis =>
      rw [breakBlockEnds, inductionHypothesis (fun inside => free (List.infix_cons inside))]
      exact noPair
  | case3 => rfl

/-- The pass puts the new mark in every place of the old one, and there is no other text with
it there. -/
theorem isReplacement_iff {replaced : List Char} :
    IsReplacement ['*', '/'] ['*', '\\', '/'] cs replaced ↔ replaced = breakBlockEnds cs := by
  constructor
  · rintro ⟨parts, free, rfl, rfl⟩
    induction parts with
    | nil => rfl
    | cons part others inductionHypothesis =>
        obtain ⟨partFree, othersFree⟩ := List.forall_mem_cons.mp free
        cases others with
        | nil =>
            rw [List.intercalate_singleton, List.intercalate_singleton,
              breakBlockEnds_eq_self partFree]
        | cons next more =>
            rw [List.intercalate_cons_cons, List.intercalate_cons_cons, List.append_assoc,
              List.append_assoc, inductionHypothesis othersFree]
            exact (breakBlockEnds_append_blockEnd partFree _).symm
  · rintro rfl
    obtain ⟨first, parts, free, isText, isBroken⟩ := exists_parts_breakBlockEnds cs
    exact ⟨first :: parts, free, isText, isBroken⟩

private theorem breakBlockEnds_append_lineFeed (cs rest : List Char) :
    breakBlockEnds (cs ++ '\n' :: rest) = breakBlockEnds cs ++ '\n' :: breakBlockEnds rest := by
  induction cs using breakBlockEnds.induct with
  | case1 others inductionHypothesis =>
      rw [List.cons_append, List.cons_append, breakBlockEnds, inductionHypothesis, breakBlockEnds]
      rfl
  | case2 c others noPair inductionHypothesis =>
      have stillNoPair : ∀ more, c = '*' → others ++ '\n' :: rest = '/' :: more → False := by
        intro more isStar starts
        cases others with
        | nil => cases starts
        | cons next left =>
            obtain ⟨rfl, -⟩ := List.cons_eq_cons.mp starts
            exact noPair left isStar rfl
      rw [List.cons_append, breakBlockEnds, inductionHypothesis, breakBlockEnds]
      · rfl
      · exact noPair
      · exact stillNoPair
  | case3 =>
      rw [List.nil_append, breakBlockEnds]
      · rfl
      · rintro _ ⟨⟩

/-- No end of a comment goes over the end of a line. -/
theorem breakBlockEnds_intercalate (lines : List (List Char)) :
    breakBlockEnds (['\n'].intercalate lines) = ['\n'].intercalate (lines.map breakBlockEnds) := by
  induction lines with
  | nil => rfl
  | cons line others inductionHypothesis =>
      cases others with
      | nil => simp [List.intercalate_singleton]
      | cons next more =>
          rw [List.intercalate_cons_cons, List.append_assoc, List.singleton_append,
            breakBlockEnds_append_lineFeed, inductionHypothesis]
          simp [List.intercalate_cons_cons]

private theorem mem_breakBlockEnds {c : Char} (member : c ∈ breakBlockEnds cs) :
    c ∈ cs ∨ c = '\\' := by
  induction cs using breakBlockEnds.induct with
  | case1 rest inductionHypothesis =>
      simp only [breakBlockEnds, List.mem_cons] at member ⊢
      grind
  | case2 d rest noPair inductionHypothesis =>
      rw [breakBlockEnds] at member
      · simp only [List.mem_cons] at member ⊢
        grind
      · exact noPair
  | case3 => cases member

private theorem head?_breakBlockEnds (cs : List Char) : (breakBlockEnds cs).head? = cs.head? := by
  cases cs using breakBlockEnds.fun_cases_unfolding <;> rfl

private theorem breakBlockEnds_eq_nil_iff : breakBlockEnds cs = [] ↔ cs = [] := by
  rw [← List.head?_eq_none_iff, head?_breakBlockEnds, List.head?_eq_none_iff]

private theorem getLast?_breakBlockEnds (cs : List Char) :
    (breakBlockEnds cs).getLast? = cs.getLast? := by
  induction cs using breakBlockEnds.induct with
  | case1 rest inductionHypothesis =>
      simp only [breakBlockEnds, List.getLast?_cons, inductionHypothesis, Option.getD_some]
  | case2 c rest noPair inductionHypothesis =>
      rw [breakBlockEnds, List.getLast?_cons, List.getLast?_cons, inductionHypothesis]
      exact noPair
  | case3 => rfl

/-- A line stays as normal as it was. -/
theorem isNormalLine_breakBlockEnds (normal : IsNormalLine line) :
    IsNormalLine (breakBlockEnds line) where
  filled := mt breakBlockEnds_eq_nil_iff.mp normal.filled
  trimmed := ⟨by rw [head?_breakBlockEnds]; exact normal.trimmed.start,
    by rw [getLast?_breakBlockEnds]; exact normal.trimmed.stop⟩
  oneLine isBreak := (mem_breakBlockEnds isBreak).elim normal.oneLine (by decide)

private theorem isOneLine_breakBlockEnds (oneLine : IsOneLine line) :
    IsOneLine (breakBlockEnds line) := by
  intro c member
  rcases mem_breakBlockEnds member with inLine | rfl
  · exact oneLine c inLine
  · rfl

/-! ## The block as one comment -/

/-- Joined lines are ended lines, but for the last. -/
theorem toList_intercalate_append (lines : List String) (last : String) :
    (String.intercalate "\n" (lines ++ [last])).toList = linesText lines ++ last.toList := by
  have filled : lines ++ [last] ≠ [] :=
    List.append_ne_nil_of_right_ne_nil lines (List.cons_ne_nil _ _)
  have whole := toList_fileText filled
  rw [fileText, String.toList_append, linesText_append, linesText_cons] at whole
  have ended : linesText lines ++ last.toList ++ ['\n'] =
      (String.intercalate "\n" (lines ++ [last])).toList ++ ['\n'] := by
    rw [List.append_assoc]
    exact whole.symm
  exact (List.append_cancel_right ended).symm

/-- What stands between the marks of a block: the second star, the lines, and the blank in front
of the last mark. -/
def blockInside (margin : String) (lines : List String) : List Char :=
  linesText ("*" :: lines.map (margin ++ ·)) ++ (margin ++ " ").toList

private theorem toList_block (margin : String) (lines : List String) :
    (String.intercalate "\n" (("/**" :: lines ++ [" */"]).map (margin ++ ·))).toList =
      margin.toList ++ '/' :: '*' :: (blockInside margin lines ++ ['*', '/']) := by
  rw [List.map_append, List.map_singleton, toList_intercalate_append, List.map_cons, linesText_cons,
    blockInside, linesText_cons]
  simp [String.toList_append]

private theorem splitLines_blockInside {lines : List String}
    (oneLine : ∀ line ∈ lines, IsOneLine line.toList) (marginOneLine : IsOneLine margin.toList) :
    splitLines (blockInside margin lines) =
      ['*'] :: (lines.map fun line => margin.toList ++ line.toList) ++
        [margin.toList ++ [' ']] := by
  have isText : linesText ("*" :: lines.map (margin ++ ·)) =
      (['*'] :: lines.map fun line => margin.toList ++ line.toList).flatMap (· ++ ['\n']) := by
    rw [linesText, List.flatMap_cons, List.flatMap_cons, List.flatMap_map, List.flatMap_map]
    simp [String.toList_append]
  have allOneLine :
      ∀ line ∈ ['*'] :: lines.map fun line => margin.toList ++ line.toList, IsOneLine line := by
    refine List.forall_mem_cons.mpr ⟨by decide, List.forall_mem_map.mpr ?_⟩
    intro line inLines
    exact List.forall_mem_append.mpr ⟨marginOneLine, oneLine line inLines⟩
  have space : IsOneLine [' '] := by decide
  have lastOneLine : IsOneLine (margin.toList ++ [' ']) :=
    List.forall_mem_append.mpr ⟨marginOneLine, space⟩
  have isLast : (margin ++ " ").toList = margin.toList ++ [' '] := String.toList_append
  rw [blockInside, isText, isLast, splitLines_flatMap allOneLine,
    splitLines_of_isOneLine lastOneLine (by simp)]

private theorem toList_documentationLine (filled : line ≠ []) :
    (documentationLine line).toList = [' ', '*', ' '] ++ breakBlockEnds line := by
  have isFilled : line.isEmpty = false := by simpa using filled
  rw [documentationLine, isFilled]
  simp [String.toList_append]

/-- The star of the block is taken off, and no star of the line. -/
theorem bareLine_documentationLine (blank : AreBlanks margin.toList) (normal : IsNormalLine line) :
    bareLine (margin.toList ++ (documentationLine line).toList) = breakBlockEnds line := by
  have broken := isNormalLine_breakBlockEnds normal
  have space : AreBlanks [' '] := by decide
  have starred : trimChars ([' '] ++ '*' :: ([' '] ++ breakBlockEnds line)) =
      '*' :: ([' '] ++ breakBlockEnds line) := by
    rw [trimChars_append_left space]
    exact (broken.trimmed.cons rfl broken.filled [' ']).trimChars_eq
  calc bareLine (margin.toList ++ (documentationLine line).toList)
      = trimChars ((trimChars ([' '] ++ '*' :: ([' '] ++ breakBlockEnds line))).dropWhile
          (· == '*')) := by
        rw [bareLine, toList_documentationLine normal.filled, trimChars_append_left blank]
        rfl
    _ = trimChars ([' '] ++ breakBlockEnds line) := by
        rw [starred]
        rfl
    _ = breakBlockEnds line := by
        rw [trimChars_append_left space, broken.trimmed.trimChars_eq]

theorem documentationLines_congr {text other : String}
    (same : trimChars text.toList = trimChars other.toList) :
    documentationLines text = documentationLines other := by
  rw [documentationLines, documentationLines, isExportMarker, isExportMarker, same]

/-- The frame of a block vanishes, and every line between is found. -/
theorem documentationLines_block (blank : AreBlanks margin.toList)
    (marginOneLine : IsOneLine margin.toList) (normal : ∀ line ∈ lines, IsNormalLine line)
    (oneLine : ∀ line ∈ lines, IsOneLine line) :
    documentationLines (String.intercalate "\n"
        (("/**" :: lines.map documentationLine ++ [" */"]).map (margin ++ ·))) =
      lines.map breakBlockEnds := by
  have starOneLine : IsOneLine [' ', '*', ' '] := by decide
  have linesOneLine : ∀ text ∈ lines.map documentationLine, IsOneLine text.toList := by
    refine List.forall_mem_map.mpr fun line inLines => ?_
    rw [toList_documentationLine (normal line inLines).filled]
    exact List.forall_mem_append.mpr
      ⟨starOneLine, isOneLine_breakBlockEnds (oneLine line inLines)⟩
  have bareInside : (splitLines (blockInside margin (lines.map documentationLine))).map bareLine =
      [] :: lines.map breakBlockEnds ++ [[]] := by
    have lastBare : bareLine (margin.toList ++ [' ']) = [] := by
      rw [bareLine, trimChars_append_left blank]
      rfl
    have middleBare : (lines.map documentationLine).map
          (bareLine ∘ fun line => margin.toList ++ line.toList) = lines.map breakBlockEnds := by
      rw [List.map_map]
      refine List.map_congr_left fun line inLines => ?_
      rw [Function.comp_apply, Function.comp_apply]
      exact bareLine_documentationLine blank (normal line inLines)
    rw [splitLines_blockInside linesOneLine marginOneLine, List.map_append, List.map_cons,
      List.map_singleton, lastBare, List.map_map, middleBare]
    rfl
  have filled : (lines.map breakBlockEnds).filter (fun line => !line.isEmpty) =
      lines.map breakBlockEnds := by
    refine List.filter_eq_self.mpr (List.forall_mem_map.mpr fun line inLines => ?_)
    simpa using (isNormalLine_breakBlockEnds (normal line inLines)).filled
  have isComment := documentationLines_blockComment (String.toList_ofList (l := '/' :: '*' ::
    (blockInside margin (lines.map documentationLine) ++ ['*', '/'])))
  -- the blanks in front of the block do not count
  rw [← documentationLines_congr, isComment, bareInside]
  · simp [filled]
  · rw [String.toList_ofList, toList_block, trimChars_append_left blank]

private theorem isOneLine_of_mem_splitAtMark
    (plain : ∀ c ∈ text.toList, isLineBreak c = true → c = '\n')
    (member : line ∈ splitAtMark '\n' text.toList) : IsOneLine line := by
  intro c inLine
  have noLineFeed : c ≠ '\n' := fun same => not_mem_of_mem_splitAtMark member (same ▸ inLine)
  have inText : c ∈ text.toList := by
    rw [← intercalate_splitAtMark '\n' text.toList]
    exact (mem_intercalate_iff noLineFeed).mpr ⟨line, member, inLine⟩
  exact Bool.eq_false_iff.mpr fun isBreak => noLineFeed (plain c inText isBreak)

/-- A tidy text in a block, behind any margin on its lines, is read back. -/
theorem toList_documentation_block (margin : String) (blank : AreBlanks margin.toList)
    (marginOneLine : IsOneLine margin.toList) (tidy : IsTidy text)
    (plain : ∀ c ∈ text.toList, isLineBreak c = true → c = '\n') :
    (documentation [String.intercalate "\n" ((documentationBlock text).map (margin ++ ·))]).toList =
      breakBlockEnds text.toList := by
  by_cases filled : text = ""
  · have noBlock : documentationBlock "" = [] := rfl
    have noDocumentation : documentation [""] = "" := documentation_eq_empty_iff.mpr rfl
    rw [filled, noBlock, List.map_nil, String.intercalate_nil, noDocumentation, String.toList_empty,
      breakBlockEnds]
  · have isFilled : text.isEmpty = false := by simpa using filled
    have found := documentationLines_block blank marginOneLine (tidy.isNormalLine filled)
      (fun line => isOneLine_of_mem_splitAtMark plain)
    rw [documentationBlock, isFilled, if_neg Bool.false_ne_true, toList_documentation,
      documentationLinesOf, List.flatMap_singleton, found, ← breakBlockEnds_intercalate,
      intercalate_splitAtMark]

/-- **Documentation survives its block.**  For all comments of a source whose documentation has
no line break besides the line feed: extraction from the block that documents a member gives the
documentation with every end of a block comment taken apart.  That is the documentation itself
if there is no such end, and the same holds of the block with every line indented. -/
theorem documentation_documentationBlock (areComments : ∀ text ∈ comments, IsGoComment text)
    (plain : ∀ c ∈ (documentation comments).toList, isLineBreak c = true → c = '\n') :
    IsReplacement "*/".toList "*\\/".toList (documentation comments).toList
        (documentation [String.intercalate "\n"
          (documentationBlock (documentation comments))]).toList ∧
      (¬ "*/".toList <:+: (documentation comments).toList →
        documentation [String.intercalate "\n" (documentationBlock (documentation comments))] =
          documentation comments) ∧
      documentation [String.intercalate "\n"
          ((documentationBlock (documentation comments)).map (indentation ++ ·))] =
        documentation [String.intercalate "\n" (documentationBlock (documentation comments))] := by
  have unindented (lines : List String) : lines.map ("" ++ ·) = lines := by simp
  have tidy := isTidy_documentation areComments
  have plainBlock := toList_documentation_block "" (List.forall_mem_nil _)
    (List.forall_mem_nil _) tidy plain
  rw [unindented] at plainBlock
  have indentedBlock := toList_documentation_block indentation (by decide) (by decide) tidy plain
  refine ⟨isReplacement_iff.mpr plainBlock, fun free => ?_, ?_⟩
  · rw [← String.toList_inj, plainBlock, breakBlockEnds_eq_self free]
  · rw [← String.toList_inj, plainBlock, indentedBlock]

/-- Comments with lines like marks and frames of blocks, and with ends of blocks. -/
def markedComments : List String :=
  ["// * starred */ **/", "//export Mark", "/*\n *** // twice\n * /**\n */", "// */"]

theorem documentation_documentationBlock_marked :
    (∀ text ∈ markedComments, IsGoComment text) ∧
      (∀ c ∈ (documentation markedComments).toList, isLineBreak c = true → c = '\n') ∧
      documentation markedComments = "* starred */ **/\n// twice\n/**\n*/" ∧
      documentation [String.intercalate "\n" (documentationBlock (documentation markedComments))] =
        "* starred *\\/ **\\/\n// twice\n/**\n*\\/" ∧
      documentation [String.intercalate "\n"
          ((documentationBlock (documentation markedComments)).map (indentation ++ ·))] =
        documentation [String.intercalate "\n"
          (documentationBlock (documentation markedComments))] := by
  have areComments : ∀ text ∈ markedComments, IsGoComment text := by
    simp only [markedComments, List.forall_mem_cons]
    exact ⟨.line rfl (by decide), .line rfl (by decide),
      @IsGoComment.block _ "\n *** // twice\n * /**\n ".toList rfl, .line rfl (by decide),
      List.forall_mem_nil _⟩
  have isText : documentation markedComments = "* starred */ **/\n// twice\n/**\n*/" := by
    decide +kernel
  have allPlain : ((documentation markedComments).toList.all fun c =>
      !isLineBreak c || c == '\n') = true := by
    decide +kernel
  have plain : ∀ c ∈ (documentation markedComments).toList, isLineBreak c = true → c = '\n' := by
    intro c member isBreak
    simpa [isBreak] using List.all_eq_true.mp allPlain c member
  obtain ⟨isReplaced, -, indented⟩ := documentation_documentationBlock areComments plain
  refine ⟨areComments, plain, isText, ?_, indented⟩
  rw [← String.toList_inj, isReplacement_iff.mp isReplaced, isText]
  decide +kernel

end AddonBindings.Declaration
