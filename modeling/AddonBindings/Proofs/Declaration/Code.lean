import AddonBindings.Proofs.Declaration.Reading
import AddonBindings.Text.Blank

/-!
Contract: what is left of the declarations without their comments.

Owns:
- removal of block comments from the text of a script, and its lines of code;
- the law that the lines of code of the declarations hold no trace of the
  documentation.

Does not own: the tokens that are read from the declarations, which are in
`AddonBindings.Proofs.Declaration.Reading`.
-/

namespace AddonBindings.Declaration

open Text

/-! ## Block comments -/

inductive ScriptPlace where
  | code
  /-- In a quoted text, up to the mark that opened it. -/
  | quoted (mark : Char)
  | lineComment
  | blockComment
deriving DecidableEq, Repr

/-- The character opens a quoted text. -/
def isQuotationMark (c : Char) : Bool :=
  c = '"' || c = '\'' || c = '`'

/-- The characters without block comments, each from its opening mark up to the next
closing one.  The marks mean nothing in quoted texts and in line comments. -/
def withoutBlockComments : ScriptPlace → List Char → List Char
  | _, [] => []
  | .code, '/' :: '*' :: rest => withoutBlockComments .blockComment rest
  | .code, '/' :: '/' :: rest => '/' :: '/' :: withoutBlockComments .lineComment rest
  | .code, c :: rest =>
      c :: withoutBlockComments (if isQuotationMark c then .quoted c else .code) rest
  | .quoted mark, '\\' :: c :: rest => '\\' :: c :: withoutBlockComments (.quoted mark) rest
  | .quoted mark, c :: rest =>
      c :: withoutBlockComments (if c = mark then .code else .quoted mark) rest
  | .lineComment, c :: rest =>
      c :: withoutBlockComments (if c = '\n' then .code else .lineComment) rest
  | .blockComment, '*' :: '/' :: rest => withoutBlockComments .code rest
  | .blockComment, _ :: rest => withoutBlockComments .blockComment rest

/-- The lines that are left when block comments are removed, and then the lines of
blanks. -/
def codeLinesOf (cs : List Char) : List (List Char) :=
  (splitAtMark '\n' (withoutBlockComments .code cs)).filter fun line => !line.all isBlank

def codeLines (text : String) : List (List Char) :=
  codeLinesOf text.toList

/-- A character that neither opens a comment or a quoted text nor ends a line. -/
def isCodeCharacter (c : Char) : Bool :=
  c ≠ '/' && !isQuotationMark c && c ≠ '\n'

private theorem withoutBlockComments_cons_of_isCodeCharacter {c : Char}
    (isCode : isCodeCharacter c = true)
    (rest : List Char) :
    withoutBlockComments .code (c :: rest) = c :: withoutBlockComments .code rest := by
  simp only [isCodeCharacter, Bool.and_eq_true, decide_eq_true_eq, Bool.not_eq_true'] at isCode
  obtain ⟨⟨noSlash, noQuote⟩, -⟩ := isCode
  rw [withoutBlockComments]
  · simp only [noQuote, Bool.false_eq_true, if_false]
  · exact fun _ isSlash => absurd isSlash noSlash
  · exact fun _ isSlash => absurd isSlash noSlash

private theorem withoutBlockComments_append_of_isCodeCharacter {line : List Char}
    (isCode : ∀ c ∈ line, isCodeCharacter c = true) (rest : List Char) :
    withoutBlockComments .code (line ++ rest) = line ++ withoutBlockComments .code rest := by
  induction line with
  | nil => rfl
  | cons c line inductionHypothesis =>
      rw [List.cons_append, withoutBlockComments_cons_of_isCodeCharacter (isCode c (by simp)),
        inductionHypothesis fun other member => isCode other (List.mem_cons_of_mem c member),
        List.cons_append]

private theorem withoutBlockComments_lineFeed (rest : List Char) :
    withoutBlockComments .code ('\n' :: rest) = '\n' :: withoutBlockComments .code rest := by
  rw [withoutBlockComments]
  · rfl
  · exact fun _ isSlash => absurd isSlash (by decide)
  · exact fun _ isSlash => absurd isSlash (by decide)

/-! ## Inside a documentation block -/

private theorem blockComment_cons {c : Char} {rest : List Char}
    (noEnd : c = '*' → rest.head? ≠ some '/') :
    withoutBlockComments .blockComment (c :: rest) = withoutBlockComments .blockComment rest := by
  rw [withoutBlockComments]
  rintro others rfl rfl
  exact noEnd rfl rfl

/-- With every end taken apart, a text in a comment is removed, and the comment is
still open. -/
theorem blockComment_breakBlockEnds (cs rest : List Char) :
    withoutBlockComments .blockComment (breakBlockEnds cs ++ '\n' :: rest) =
      withoutBlockComments .blockComment rest := by
  have unended {c : Char} {others : List Char} (noStar : c ≠ '*') :
      withoutBlockComments .blockComment (c :: others) =
        withoutBlockComments .blockComment others :=
    blockComment_cons fun isStar => absurd isStar noStar
  induction cs using breakBlockEnds.induct with
  | case1 others inductionHypothesis =>
      rw [breakBlockEnds, List.cons_append, blockComment_cons fun _ => by simp, List.cons_append,
        unended (by decide), List.cons_append, unended (by decide), inductionHypothesis]
  | case2 c others noPair inductionHypothesis =>
      have noEnd : c = '*' → (breakBlockEnds others ++ '\n' :: rest).head? ≠ some '/' := by
        rintro rfl
        cases others using breakBlockEnds.fun_cases with
        | case1 more => simp [breakBlockEnds]
        | case2 d more alone =>
            rw [breakBlockEnds, List.cons_append, List.head?_cons]
            · intro isSlash
              exact noPair more rfl (by rw [Option.some.inj isSlash])
            · exact alone
        | case3 => simp [breakBlockEnds]
      rw [breakBlockEnds, List.cons_append, blockComment_cons noEnd, inductionHypothesis]
      exact noPair
  | case3 => exact unended (by decide)

private theorem blockComment_documentationLine (line rest : List Char) :
    withoutBlockComments .blockComment
        ((indentation ++ documentationLine line).toList ++ '\n' :: rest) =
      withoutBlockComments .blockComment rest := by
  have opened (others : List Char) :
      withoutBlockComments .blockComment ("   * ".toList ++ others) =
        withoutBlockComments .blockComment others := by
    rfl
  unfold documentationLine
  split
  · rfl
  · have front : indentation.toList ++ " * ".toList = "   * ".toList := rfl
    rw [String.toList_append, String.toList_append, ← List.append_assoc, front, List.append_assoc,
      opened, String.toList_ofList, blockComment_breakBlockEnds]

/-! ## Lines of code -/

/-- Whatever follows them, the lines give the lines of code `shown`, and no comment goes
on in the next line. -/
def ShowsCode (lines : List String) (shown : List (List Char)) : Prop :=
  ∀ rest, codeLinesOf (linesText lines ++ rest) = shown ++ codeLinesOf rest

namespace ShowsCode

theorem nil : ShowsCode [] [] := fun _ => rfl

theorem append {front back : List String} {shown more : List (List Char)}
    (first : ShowsCode front shown) (second : ShowsCode back more) :
    ShowsCode (front ++ back) (shown ++ more) := by
  intro rest
  rw [linesText_append, List.append_assoc, first, second, List.append_assoc]

/-- A line that is kept as it is. -/
theorem kept {line : String}
    (keeps : ∀ rest, withoutBlockComments .code (line.toList ++ '\n' :: rest) =
      line.toList ++ '\n' :: withoutBlockComments .code rest)
    (inLine : ∀ c ∈ line.toList, c ≠ '\n') :
    ShowsCode [line] ([line.toList].filter fun line => !line.all isBlank) := by
  intro rest
  have isLine : linesText [line] ++ rest = line.toList ++ '\n' :: rest := by
    simp [linesText]
  rw [codeLinesOf, codeLinesOf, isLine, keeps, ← List.filter_append]
  congr 1
  generalize line.toList = cs at inLine
  induction cs with
  | nil => simp [splitAtMark]
  | cons c cs inductionHypothesis =>
      have others := inductionHypothesis fun other member =>
        inLine other (List.mem_cons_of_mem c member)
      rw [List.cons_append, splitAtMark, if_neg (inLine c (by simp)), others]
      rfl

theorem of_isCodeCharacter {line : String} (isCode : ∀ c ∈ line.toList, isCodeCharacter c = true)
    (filled : line.toList.all isBlank = false) : ShowsCode [line] [line.toList] := by
  have inLine : ∀ c ∈ line.toList, c ≠ '\n' := by
    rintro c member rfl
    exact absurd (isCode '\n' member) (by decide)
  have keeps (rest : List Char) : withoutBlockComments .code (line.toList ++ '\n' :: rest) =
      line.toList ++ '\n' :: withoutBlockComments .code rest := by
    rw [withoutBlockComments_append_of_isCodeCharacter isCode, withoutBlockComments_lineFeed]
  simpa [filled] using ShowsCode.kept keeps inLine

/-- Empty lines between groups of lines do not show. -/
theorem intercalate {groups : List (List String)} {shown : List (List (List Char))}
    (each : List.Forall₂ ShowsCode groups shown) :
    ShowsCode ([""].intercalate groups) shown.flatten := by
  have blank : ShowsCode [""] [] := .kept withoutBlockComments_lineFeed (by simp)
  induction each with
  | nil => exact .nil
  | @cons lines code others shownOthers first rest inductionHypothesis =>
      cases rest with
      | nil =>
          rw [List.intercalate_singleton]
          simpa using first
      | cons second more =>
          rw [List.intercalate_cons_cons, List.flatten_cons, ← List.nil_append (List.flatten _)]
          rw [List.append_assoc]
          exact first.append (blank.append inductionHypothesis)

end ShowsCode

/-- A documentation block gives no line of code. -/
theorem showsCode_documentationBlock (documentation : String) :
    ShowsCode ((documentationBlock documentation).map (indentation ++ ·)) [] := by
  unfold documentationBlock
  split
  · exact .nil
  · intro rest
    have opening (others : List Char) :
        withoutBlockComments .code (linesText [indentation ++ "/**"] ++ others) =
          "  ".toList ++ withoutBlockComments .blockComment others := by
      rfl
    have closing (others : List Char) :
        withoutBlockComments .blockComment (linesText [indentation ++ " */"] ++ others) =
          withoutBlockComments .code ('\n' :: others) := by
      rfl
    have inside (lines : List (List Char)) (others : List Char) :
        withoutBlockComments .blockComment
            (linesText ((lines.map documentationLine).map (indentation ++ ·)) ++ others) =
          withoutBlockComments .blockComment others := by
      induction lines with
      | nil => rfl
      | cons line more inductionHypothesis =>
          rw [List.map_cons, List.map_cons, linesText_cons, List.append_assoc, List.cons_append,
            blockComment_documentationLine, inductionHypothesis]
    have removed : withoutBlockComments .code
        (linesText (("/**" :: (splitAtMark '\n' documentation.toList).map documentationLine ++
          [" */"]).map (indentation ++ ·)) ++ rest) =
          "  ".toList ++ '\n' :: withoutBlockComments .code rest := by
      rw [List.cons_append, List.map_cons, List.map_append, ← List.singleton_append,
        linesText_append, linesText_append, List.append_assoc, List.append_assoc, opening, inside,
        List.map_singleton, closing, withoutBlockComments_lineFeed]
    rw [codeLinesOf, removed]
    rfl

/-! ## The declarations -/

private theorem isCodeCharacter_of_isWordCharacter {c : Char} (word : isWordCharacter c = true) :
    isCodeCharacter c = true := by
  have differs (mark : Char) (isMark : isWordCharacter mark = false) : c ≠ mark := by
    rintro rfl
    rw [word] at isMark
    cases isMark
  simp [isCodeCharacter, isQuotationMark, differs '/' (by decide), differs '"' (by decide),
    differs '\'' (by decide), differs '`' (by decide), differs '\n' (by decide)]

def isCodeText (text : String) : Bool :=
  text.toList.all isCodeCharacter

private theorem isCodeText_of_isWord {text : String} (word : isWord text = true) :
    isCodeText text = true :=
  List.all_eq_true.mpr fun c member =>
    isCodeCharacter_of_isWordCharacter ((isWord_iff.mp word).2 c member)

private theorem isCodeText_append {front back : String} (isFront : isCodeText front = true)
    (isBack : isCodeText back = true) : isCodeText (front ++ back) = true := by
  rw [isCodeText, String.toList_append, List.all_append, Bool.and_eq_true]
  exact ⟨isFront, isBack⟩

private theorem isCodeText_intercalate {separator : String}
    (isSeparator : isCodeText separator = true)
    {items : List String} (each : ∀ item ∈ items, isCodeText item = true) :
    isCodeText (String.intercalate separator items) = true := by
  rw [isCodeText, String.toList_intercalate]
  induction items with
  | nil => rfl
  | cons item rest inductionHypothesis =>
      have first : item.toList.all isCodeCharacter = true := each item (by simp)
      have others := inductionHypothesis fun other member => each other (by simp [member])
      cases rest with
      | nil => rwa [List.map_singleton, List.intercalate_singleton]
      | cons next more =>
          rw [List.map_cons, List.map_cons, List.intercalate_cons_cons, List.all_append,
            List.all_append, first, ← List.map_cons, others, Bool.and_true, Bool.true_and]
          exact isSeparator

private theorem isCodeText_memberText {signature : ScriptSignature}
    (named : isWord signature.name = true)
    (parametersNamed : ∀ parameter ∈ signature.parameters, isWord parameter.name = true) :
    isCodeText (memberText signature) = true := by
  have parameters : isCodeText (String.intercalate ", " (signature.parameters.map fun parameter =>
      parameter.name ++ ": " ++ parameter.type.word)) = true := by
    apply isCodeText_intercalate (by decide)
    intro item member
    obtain ⟨parameter, inParameters, rfl⟩ := List.mem_map.mp member
    exact isCodeText_append
      (isCodeText_append (isCodeText_of_isWord (parametersNamed parameter inParameters)) (by decide))
      (isCodeText_of_isWord (isWord_word parameter.type))
  have front := isCodeText_append (isCodeText_of_isWord named) (show isCodeText ": (" = true by decide)
  have result := isCodeText_append (show isCodeText ") => " = true by decide)
    (isCodeText_of_isWord (isWord_resultWord signature.result))
  have whole := isCodeText_append (isCodeText_append (isCodeText_append front parameters) result)
    (show isCodeText ";" = true by decide)
  simpa [memberText, String.append_assoc] using whole

/-- Of a member with its documentation, only the member shows. -/
theorem showsCode_memberLines {function : ExportedFunction} {signature : ScriptSignature}
    (bindable : IsBindable function) (stated : function.signature? = some signature) :
    ShowsCode ((documentationBlock function.documentation).map (indentation ++ ·) ++
        [memberText signature].map (indentation ++ ·))
      [(indentation ++ memberText signature).toList] := by
  have names := bindable.namesAreWords stated
  have named : isWord signature.name = true := by
    rw [(ExportedFunction.of_signature? stated).1]
    exact isWord_lowerFirst names.function
  have isCode := isCodeText_append (show isCodeText indentation = true by decide)
    (isCodeText_memberText named names.parameters)
  have filled : (indentation ++ memberText signature).toList.all isBlank = false := by
    simp [memberText, String.toList_append, show isBlank ';' = false by decide]
  have member := ShowsCode.of_isCodeCharacter (List.all_eq_true.mp isCode) filled
  rw [List.map_singleton]
  exact (showsCode_documentationBlock function.documentation).append member

private theorem exists_showsCode_members {functions : List ExportedFunction}
    {signatures : List ScriptSignature} (bindable : ∀ function ∈ functions, IsBindable function)
    (stated : functions.mapM ExportedFunction.signature? = some signatures) :
    ∃ members, functions.mapM memberLines = .ok members ∧
      List.Forall₂ ShowsCode members
        (signatures.map fun signature => [(indentation ++ memberText signature).toList]) := by
  induction functions generalizing signatures with
  | nil =>
      cases stated
      exact ⟨[], rfl, .nil⟩
  | cons function rest inductionHypothesis =>
      rw [List.mapM_cons] at stated
      obtain ⟨signature, found, others⟩ := Option.bind_eq_some_iff.mp stated
      obtain ⟨restSignatures, foundRest, same⟩ := Option.bind_eq_some_iff.mp others
      cases same
      obtain ⟨members, made, shown⟩ :=
        inductionHypothesis (fun other member => bindable other (by simp [member])) foundRest
      have first := showsCode_memberLines (bindable function (by simp)) found
      exact ⟨_, Traversal.mapM_cons_eq_ok_iff.mpr ⟨_, _, memberLines_eq found, made, rfl⟩,
        .cons first shown⟩

private theorem showsCode_opening {addon : String} (named : isWord addon = true) :
    ShowsCode [Product.notice, "export interface " ++ interfaceName addon ++ " \x7b"]
      [Product.notice.toList, ("export interface " ++ interfaceName addon ++ " \x7b").toList] := by
  have inLine : '\n' ∉ Product.notice.toList := by decide
  have notice : ShowsCode [Product.notice] [Product.notice.toList] :=
    .kept (fun _ => rfl) fun c member isBreak => inLine (isBreak ▸ member)
  have isCode := isCodeText_append
    (isCodeText_append (show isCodeText "export interface " = true by decide)
      (isCodeText_of_isWord (isWord_upperFirst named)))
    (show isCodeText " \x7b" = true by decide)
  have filled : ("export interface " ++ interfaceName addon ++ " \x7b").toList.all isBlank = false := by
    simp [String.toList_append, show isBlank 'e' = false by decide]
  exact notice.append (.of_isCodeCharacter (List.all_eq_true.mp isCode) filled)

/-- The lines of code of the declarations with the given signatures. -/
def interfaceCode (addon : String) (signatures : List ScriptSignature) : List (List Char) :=
  [Product.notice.toList, ("export interface " ++ interfaceName addon ++ " \x7b").toList] ++
    (signatures.map fun signature => (indentation ++ memberText signature).toList) ++
    codeLinesOf (linesText (["\x7d", ""] ++ addonBinding addon))

/-- Whatever the documentation says, the lines of code of the declarations are given by
the signatures alone. -/
theorem codeLines_source {functions : List ExportedFunction} {signatures : List ScriptSignature}
    {addon text : String} (bindable : ∀ function ∈ functions, IsBindable function)
    (named : isWord addon = true)
    (stated : functions.mapM ExportedFunction.signature? = some signatures)
    (made : source functions addon = .ok text) :
    codeLines text = interfaceCode addon signatures := by
  obtain ⟨members, membersMade, shown⟩ := exists_showsCode_members bindable stated
  rw [source, membersMade] at made
  have same := (Except.ok.inj made).symm
  have front := (showsCode_opening named).append (.intercalate shown)
  rw [codeLines, same, toList_fileText (by simp), List.append_assoc _ _ (addonBinding addon),
    linesText_append, front, ← List.flatMap_def, ← List.map_eq_flatMap]
  rfl

end AddonBindings.Declaration
