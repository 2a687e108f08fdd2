import AddonBindings.Proofs.Go.Reading

/-!
Contract: a type in a source crosses the boundary as its text does.

Owns:
- the first word and the first mark of characters that are spelled by tokens;
- the tokens of a number's name and of a pointer to `C.char`, told from the text;
- the capstone: in a source that can be read, the shape of every run of tokens without
  comments and the text of the run have the same boundary type, or both have none.

Does not own: the language of the texts, which is in
`AddonBindings.Proofs.Boundary.Classification`.
-/

namespace AddonBindings.Go

open TypeExpression

variable {rest gap more tail name : List Char} {run others : List Token} {token : Token}
  {first : Char} {type : TypeSyntax}

/-! ## Spelled characters -/

private theorem head?_of_areBlanks_append {c d : Char} (areBlank : Text.AreBlanks gap)
    (isHead : d ∈ (gap ++ c :: more).head?) : Text.isBlank d = true ∨ d = c := by
  cases gap with
  | nil =>
      cases isHead
      exact .inr rfl
  | cons blank blanks =>
      cases isHead
      exact .inl (areBlank _ List.mem_cons_self)

namespace AreSpelled

theorem cons_inv {cs : List Char} (spelled : AreSpelled rest (token :: others) cs) :
    ∃ gap more, Text.AreBlanks gap ∧ cs = gap ++ (token.lexeme.text.toList ++ more) ∧
      AreSpelled rest others more := by
  cases spelled with
  | cons areBlank _ _ areOthers =>
      exact ⟨_, _, fun c member => textBlank_of_isBlank (areBlank c member), rfl, areOthers⟩

/-- No token is spelled by blanks alone. -/
theorem eq_nil_of_areBlanks (spelled : AreSpelled rest run gap)
    (areBlank : Text.AreBlanks gap) : run = [] := by
  cases spelled with
  | nil => rfl
  | cons _ _ starts _ =>
      obtain ⟨first, behind, isText, noBlank⟩ := starts
      have blank := areBlank first (by simp [isText])
      rw [noBlank] at blank
      cases blank

/-- The first token starts with the first character that is no blank. -/
theorem exists_first (spelled : AreSpelled rest run (gap ++ first :: more))
    (areBlank : Text.AreBlanks gap) (noBlank : Text.isBlank first = false) :
    ∃ token others left, run = token :: others ∧
      token.lexeme.text.toList ++ left = first :: more ∧
      IsLexedAs token.lexeme (first :: (more ++ rest)) (left ++ rest) ∧
      AreSpelled rest others left := by
  generalize isText : gap ++ first :: more = cs at spelled
  cases spelled with
  | nil => simp at isText
  | @cons token others before left beforeBlank isLexed starts areOthers =>
      obtain ⟨c, behind, isToken, noBlankToken⟩ := starts
      have front : (gap ++ first :: more).dropWhile Text.isBlank = first :: more :=
        Text.dropWhile_append_of_head? areBlank (by rintro _ ⟨⟩; exact noBlank)
      have back : (before ++ (token.lexeme.text.toList ++ left)).dropWhile Text.isBlank =
          token.lexeme.text.toList ++ left := by
        refine Text.dropWhile_append_of_head?
          (fun c member => textBlank_of_isBlank (beforeBlank c member)) ?_
        rw [isToken]
        rintro _ ⟨⟩
        exact noBlankToken
      rw [isText, back] at front
      refine ⟨token, others, left, rfl, front, ?_, areOthers⟩
      rw [← List.cons_append, ← front, List.append_assoc]
      exact isLexed

/-- The first token is the word in front, if the word ends there. -/
theorem exists_word (spelled : AreSpelled rest run (gap ++ (name ++ tail)))
    (areBlank : Text.AreBlanks gap) (isName : isAsciiName name = true)
    (ends : ∀ c ∈ tail.head?, Text.isIdentifierRest c = false) :
    ∃ token others, run = token :: others ∧ token.lexeme.text.toList = name ∧
      token.lexeme.kind = nameKind token.lexeme.text ∧ AreSpelled rest others tail := by
  cases name with
  | nil => cases isName
  | cons first letters =>
      have noBlank := (isTrimmed_of_isAsciiName isName).start first rfl
      rw [List.cons_append] at spelled
      obtain ⟨token, others, left, rfl, isText, isLexed, areOthers⟩ :=
        spelled.exists_first areBlank noBlank
      have whole : first :: (letters ++ tail ++ rest) = first :: letters ++ (tail ++ rest) := by
        rw [List.append_assoc]
        rfl
      rw [whole] at isLexed
      obtain ⟨isWord, isKind⟩ := isLexed.word isName
      rw [isWord, ← List.cons_append, List.append_assoc] at isText
      have isTail := List.append_cancel_left isText
      -- the word would only go on with a character that follows it
      have noMore : (tail ++ rest).takeWhile Text.isIdentifierRest = [] := by
        cases more : (tail ++ rest).takeWhile Text.isIdentifierRest with
        | nil => rfl
        | cons c others =>
            have isRest : Text.isIdentifierRest c = true := by
              refine List.all_eq_true.mp (List.all_takeWhile (l := tail ++ rest)) c ?_
              rw [more]
              exact List.mem_cons_self
            have isHead : c ∈ tail.head? := by
              rw [← isTail, more]
              rfl
            rw [ends c isHead] at isRest
            cases isRest
      rw [noMore, List.nil_append] at isTail
      rw [noMore, List.append_nil] at isWord
      exact ⟨token, others, rfl, isWord, isKind, isTail ▸ areOthers⟩

/-- The first token is the mark in front, if it is cut there. -/
theorem exists_mark (spelled : AreSpelled rest run (gap ++ first :: tail))
    (areBlank : Text.AreBlanks gap) (noBlank : Text.isBlank first = false)
    (isCut : cut first (tail ++ rest) = (.fixed, tail ++ rest)) :
    ∃ token others, run = token :: others ∧ token.isFixed (String.singleton first) = true ∧
      AreSpelled rest others tail := by
  obtain ⟨token, others, left, rfl, isText, isLexed, areOthers⟩ :=
    spelled.exists_first areBlank noBlank
  obtain ⟨isMark, isKind⟩ := isLexed.mark isCut
  rw [isMark, List.singleton_append] at isText
  refine ⟨token, others, rfl, ?_, (List.cons_eq_cons.mp isText).2 ▸ areOthers⟩
  have sameText : token.lexeme.text = String.singleton first := by
    rw [← String.toList_inj, isMark, String.toList_singleton]
  simp [Token.isFixed, isKind, sameText]

end AreSpelled

/-! ## Types that cross the boundary -/

/-- A type crosses as a number if it is the name of one. -/
theorem crossesAs_numeric_iff :
    type.expression.CrossesAs .numeric ↔
      ∃ token, type.tokens = [token] ∧ token.lexeme.kind = .name ∧
        token.lexeme.text ∈ numericNames := by
  constructor
  · intro crosses
    generalize isExpression : type.expression = expression at crosses
    cases crosses with
    | number isNumeric =>
        unfold TypeSyntax.expression at isExpression
        split at isExpression
        · rename_i token isTokens
          split at isExpression
          · rename_i isName
            cases isExpression
            exact ⟨token, isTokens, isName, isNumeric⟩
          · cases isExpression
        · split at isExpression <;> cases isExpression
        · cases isExpression
  · rintro ⟨token, isTokens, isName, isNumeric⟩
    rw [TypeSyntax.expression, isTokens]
    dsimp only
    rw [if_pos isName]
    exact .number isNumeric

/-- A type crosses as a text if it is a pointer to `C.char`. -/
theorem crossesAs_text_iff :
    type.expression.CrossesAs .text ↔
      ∃ star package point name, type.tokens = [star, package, point, name] ∧
        star.isFixed "*" = true ∧ (package.lexeme.kind = .name ∧ package.lexeme.text = "C") ∧
        point.isFixed "." = true ∧ name.lexeme.kind = .name ∧ name.lexeme.text = "char" := by
  constructor
  · intro crosses
    generalize isExpression : type.expression = expression at crosses
    cases crosses with
    | text =>
        unfold TypeSyntax.expression at isExpression
        split at isExpression
        · split at isExpression <;> cases isExpression
        · rename_i star package point name isTokens
          split at isExpression
          · rename_i isPointer
            simp only [Bool.and_eq_true, decide_eq_true_eq] at isPointer
            obtain ⟨⟨⟨isStar, isPackage⟩, isPoint⟩, isName⟩ := isPointer
            obtain ⟨packageText, nameText⟩ := TypeExpression.pointer.inj isExpression
            exact ⟨star, package, point, name, isTokens, isStar, ⟨isPackage, packageText⟩, isPoint,
              isName, nameText⟩
          · cases isExpression
        · cases isExpression
  · rintro ⟨star, package, point, name, isTokens, isStar, ⟨isPackage, packageText⟩, isPoint,
      isName, nameText⟩
    rw [TypeSyntax.expression, isTokens]
    dsimp only
    rw [if_pos (by simp [isStar, isPackage, isPoint, isName]), packageText, nameText]
    exact .text

private theorem toList_trim (text : String) :
    ∃ front back, Text.AreBlanks front ∧ Text.AreBlanks back ∧
      text.toList = front ++ ((Text.trim text).toList ++ back) := by
  rw [Text.trim, String.toList_ofList]
  exact Text.exists_trimChars_append text.toList

private theorem identifierRest_of_areBlanks (areBlank : Text.AreBlanks gap) :
    ∀ c ∈ gap.head?, Text.isIdentifierRest c = false := fun _ isHead =>
  Text.isIdentifierRest_of_isBlank (areBlank _ (List.mem_of_mem_head? isHead))

/-- The text is the name of a number only for a single name token. -/
theorem crossesAs_numeric_of_text (spelled : AreSpelled rest type.tokens type.text.toList)
    (isNumeric : Text.trim type.text ∈ numericNames) : type.expression.CrossesAs .numeric := by
  have isName := isAsciiName_of_mem_numericNames _ isNumeric
  obtain ⟨front, back, frontBlank, backBlank, isText⟩ := toList_trim type.text
  rw [isText] at spelled
  obtain ⟨token, others, isTokens, isWord, isKind, areOthers⟩ :=
    spelled.exists_word frontBlank isName (identifierRest_of_areBlanks backBlank)
  rw [String.toList_inj] at isWord
  have free : ∀ name ∈ numericNames, nameKind name = .name := by decide
  refine crossesAs_numeric_iff.mpr ⟨token, ?_, ?_, isWord ▸ isNumeric⟩
  · rw [isTokens, areOthers.eq_nil_of_areBlanks backBlank]
  · rw [isKind, isWord, free _ isNumeric]

/-- The text is a pointer to `C.char` only for the four tokens of one. -/
theorem crossesAs_text_of_text (spelled : AreSpelled rest type.tokens type.text.toList)
    (isPointer : IsPointerText "C" "char" (Text.trim type.text)) :
    type.expression.CrossesAs .text := by
  obtain ⟨front, back, frontBlank, backBlank, isText⟩ := toList_trim type.text
  obtain ⟨-, -, afterStar, beforePoint, afterPoint, starBlank, beforeBlank, afterBlank, isTrim⟩ :=
    isPointer
  have noEqual : ∀ c ∈ (afterStar ++ ("C".toList ++ (beforePoint ++ '.' :: (afterPoint ++
      "char".toList))) ++ back ++ rest).head?, c ≠ '=' := by
    rw [List.append_assoc, List.append_assoc]
    intro c isHead
    rcases head?_of_areBlanks_append starBlank isHead with blank | rfl
    · rintro rfl
      cases blank
    · decide
  have endsPackage : ∀ c ∈ (beforePoint ++ '.' :: (afterPoint ++ "char".toList) ++ back).head?,
      Text.isIdentifierRest c = false := by
    rw [List.append_assoc]
    intro c isHead
    rcases head?_of_areBlanks_append beforeBlank isHead with blank | rfl
    · exact Text.isIdentifierRest_of_isBlank blank
    · rfl
  have noNumber : ∀ c ∈ (afterPoint ++ ("char".toList ++ back) ++ rest).head?,
      c ≠ '.' ∧ c.isDigit = false := by
    rw [List.append_assoc]
    intro c isHead
    rcases head?_of_areBlanks_append afterBlank isHead with blank | rfl
    · refine ⟨?_, isDigit_of_isBlank blank⟩
      rintro rfl
      cases blank
    · decide
  rw [isText, isTrim, List.cons_append] at spelled
  obtain ⟨star, others, isTokens, isStar, spelled⟩ :=
    spelled.exists_mark frontBlank rfl (cut_star noEqual)
  rw [List.append_assoc, List.append_assoc] at spelled
  obtain ⟨package, others, rfl, packageText, packageKind, spelled⟩ :=
    spelled.exists_word starBlank (by decide) endsPackage
  rw [List.append_assoc, List.cons_append, List.append_assoc] at spelled
  obtain ⟨point, others, rfl, isPoint, spelled⟩ :=
    spelled.exists_mark beforeBlank rfl (cut_point noNumber)
  obtain ⟨name, others, rfl, nameText, nameKind, spelled⟩ :=
    spelled.exists_word afterBlank (by decide) (identifierRest_of_areBlanks backBlank)
  have noOthers := spelled.eq_nil_of_areBlanks backBlank
  rw [String.toList_inj] at packageText nameText
  refine crossesAs_text_iff.mpr ⟨star, package, point, name, noOthers ▸ isTokens, isStar,
    ⟨?_, packageText⟩, isPoint, ?_, nameText⟩
  · rw [packageKind, packageText]
    rfl
  · rw [nameKind, nameText]
    rfl

/-- A name of a number is its own text. -/
theorem mem_numericNames_of_crossesAs (crosses : type.expression.CrossesAs .numeric) :
    Text.trim type.text ∈ numericNames := by
  obtain ⟨token, isTokens, -, isNumeric⟩ := crossesAs_numeric_iff.mp crosses
  have isText : type.text = token.lexeme.text := by
    rw [TypeSyntax.text, isTokens, sliceText]
    exact String.append_empty
  rw [isText, trim_eq_self (isTrimmed_of_isAsciiName (isAsciiName_of_mem_numericNames _ isNumeric))]
  exact isNumeric

private theorem text_of_isFixed {text : String} (isFixed : token.isFixed text = true) :
    token.lexeme.text = text := by
  rw [Token.isFixed, Bool.and_eq_true, beq_iff_eq] at isFixed
  exact isFixed.2

/-- The tokens of a pointer to `C.char` spell one, whatever blanks stand between them. -/
theorem isPointerText_of_crossesAs (spelled : AreSpelled rest type.tokens type.text.toList)
    (crosses : type.expression.CrossesAs .text) :
    IsPointerText "C" "char" (Text.trim type.text) := by
  obtain ⟨star, package, point, name, isTokens, isStar, ⟨-, packageText⟩, isPoint, -, nameText⟩ :=
    crossesAs_text_iff.mp crosses
  rw [isTokens] at spelled
  obtain ⟨front, left, frontBlank, isText, fromPackage⟩ := spelled.cons_inv
  obtain ⟨afterStar, left, starBlank, rfl, fromPoint⟩ := fromPackage.cons_inv
  obtain ⟨beforePoint, left, beforeBlank, rfl, fromName⟩ := fromPoint.cons_inv
  obtain ⟨afterPoint, left, afterBlank, rfl, nothing⟩ := fromName.cons_inv
  cases nothing
  rw [text_of_isFixed isStar, packageText, text_of_isFixed isPoint, nameText,
    List.append_nil] at isText
  have isPointer : IsPointerText "C" "char" (String.ofList ("*".toList ++ (afterStar ++
      ("C".toList ++ (beforePoint ++ (".".toList ++ (afterPoint ++ "char".toList))))))) := by
    refine ⟨by decide, by decide, afterStar, beforePoint, afterPoint, starBlank, beforeBlank,
      afterBlank, ?_⟩
    rw [String.toList_ofList]
    rfl
  have trimmed := isPointer.isTrimmed.trimChars_eq
  rw [String.toList_ofList] at trimmed
  rwa [Text.trim, isText, Text.trimChars_append_left frontBlank, trimmed]

/-- A type whose tokens spell its text has the boundary type of the text. -/
theorem boundary_eq_ok_iff_of_spelled (spelled : AreSpelled rest type.tokens type.text.toList)
    (boundary : BoundaryType) :
    type.expression.boundary = .ok boundary ↔ boundaryOfText type.text = .ok boundary := by
  cases boundary with
  | numeric =>
      rw [Export.boundary_eq_ok_iff, boundaryOfText_eq_numeric_iff]
      exact ⟨mem_numericNames_of_crossesAs, crossesAs_numeric_of_text spelled⟩
  | text =>
      rw [Export.boundary_eq_ok_iff, boundaryOfText_eq_text_iff]
      exact ⟨isPointerText_of_crossesAs spelled, crossesAs_text_of_text spelled⟩
  | foreign label =>
      constructor
      · intro mapped
        cases isKnown_of_boundary mapped
      · intro mapped
        cases isKnown_of_boundary mapped

/-! ## Types in a source -/

/-- Tokens that stand in a row in a source, as those of every node of its tree do; the end of
the source is none of them. -/
structure IsRunOf (source : String) (run : List Token) : Prop where
  filled : run ≠ []
  inRow : run <:+: tokens source
  noFinish : ∀ token ∈ run, token.isFinish = false

private theorem toOption_eq_of_ok_iff {ε α : Type} {first second : Except ε α}
    (same : ∀ value, first = .ok value ↔ second = .ok value) :
    first.toOption = second.toOption := by
  cases first with
  | ok value => rw [(same value).mp rfl]
  | error fault =>
      cases second with
      | ok value => cases (same value).mpr rfl
      | error other => rfl

/-- What stands before the first token of a type does not matter. -/
theorem expression_unled (first : Token) (others : List Token) :
    (⟨⟨[], first.lexeme⟩ :: others⟩ : TypeSyntax).expression =
      (⟨first :: others⟩ : TypeSyntax).expression := by
  match others with
  | [] | [_] | [_, _] | [_, _, _] => rfl
  | _ :: _ :: _ :: _ :: _ => rfl

/-- **Types and texts agree.**  In a source that can be read, the types of all function
declarations are runs of tokens, and for every run of tokens without a comment inside, the
shape of the run and its text have the same outcome: they have the same boundary type, or
both are refused. -/
theorem boundary_toOption_eq_boundaryOfText {source : String} {children : List RootChild}
    (read : readSource source = .ok children) :
    (∀ type ∈ children.flatMap RootChild.types, IsRunOf source type.tokens) ∧
      ∀ type : TypeSyntax, IsRunOf source type.tokens →
        (∀ token ∈ type.tokens.tail, token.comments = []) →
          type.expression.boundary.toOption = (boundaryOfText type.text).toOption := by
  obtain ⟨readable, areRuns⟩ := readable_of_readSource read
  constructor
  · intro type member
    obtain ⟨filled, inRow, runReadable⟩ := areRuns type member
    exact ⟨filled, inRow, fun token inRun => decide_eq_false (runReadable token inRun).2⟩
  · rintro ⟨run⟩ ⟨filled, inRow, noFinish⟩ noComments
    cases run with
    | nil => exact absurd rfl filled
    | cons first others =>
        have runReadable : ∀ token ∈ first :: others, token.IsReadable := fun token member =>
          readable token (inRow.subset member) (noFinish token member)
        obtain ⟨rest, spelled⟩ := exists_areSpelled_sliceText inRow runReadable noComments
        have agree : (⟨⟨[], first.lexeme⟩ :: others⟩ : TypeSyntax).expression.boundary.toOption =
            (boundaryOfText (sliceText (first :: others))).toOption :=
          toOption_eq_of_ok_iff (boundary_eq_ok_iff_of_spelled spelled)
        rwa [expression_unled] at agree

/-- A pointer that goes on in the next line, before other types. -/
def spacedTypes : String :=
  "package p\n\nfunc F(a, b *\n\tC . char, c []int) (d float64) \x7b\x7d\n"

def spacedPointer : TypeSyntax :=
  ⟨((tokens spacedTypes).drop 8).take 4⟩

theorem boundary_toOption_spacedPointer :
    (∃ children, readSource spacedTypes = .ok children ∧
      ∀ type ∈ children.flatMap RootChild.types, IsRunOf spacedTypes type.tokens) ∧
    spacedPointer.text = "*\n\tC . char" ∧ IsRunOf spacedTypes spacedPointer.tokens ∧
    (∀ token ∈ spacedPointer.tokens.tail, token.comments = []) ∧
    spacedPointer.expression.boundary.toOption = (boundaryOfText spacedPointer.text).toOption ∧
    spacedPointer.expression.boundary.toOption = some .text := by
  have readable : (readSource spacedTypes).isOk = true := by decide +kernel
  have isRun : IsRunOf spacedTypes spacedPointer.tokens :=
    ⟨by decide +kernel, (List.take_prefix _ _).isInfix.trans (List.drop_suffix _ _).isInfix,
      by decide +kernel⟩
  have noComments : ∀ token ∈ spacedPointer.tokens.tail, token.comments = [] := by decide +kernel
  cases read : readSource spacedTypes with
  | error position =>
      rw [read] at readable
      cases readable
  | ok children =>
      obtain ⟨areRuns, agree⟩ := boundary_toOption_eq_boundaryOfText read
      exact ⟨⟨children, rfl, areRuns⟩, by decide +kernel, isRun, noComments,
        agree spacedPointer isRun noComments, by decide +kernel⟩

end AddonBindings.Go
