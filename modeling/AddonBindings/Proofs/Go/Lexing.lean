import AddonBindings.Go.Token
import AddonBindings.Proofs.Boundary.Classification

/-!
Contract: what a token says about the characters around it.

Owns:
- which kinds of lexemes there can be at a place, given the characters there;
- lexemes as they are cut from the front of characters;
- tokens that stand in a row, with blanks between them;
- the law that this is how the tokens of every source stand.

Does not own: texts that are put together from lexemes, which are in
`AddonBindings.Proofs.Go.Piece`.
-/

namespace AddonBindings.Go

open Literal

variable {first : Char} {rest after cs : List Char} {lexeme : Lexeme} {token : Token}
  {lead : List Lexeme} {position : Position}

/-! ## Kinds of lexemes -/

/-- What starts with neither a blank nor a letter is no blank, no name and no end. -/
theorem cut_cases (first : Char) (rest : List Char) :
    (isBlank first = true ∧ cut first rest = (.blank, rest.dropWhile isBlank)) ∨
      (Text.isIdentifierStart first = true ∧
        cut first rest =
          (nameKind (String.ofList (first :: rest.takeWhile Text.isIdentifierRest)),
            rest.dropWhile Text.isIdentifierRest)) ∨
      (cut first rest).1 ∉ [.blank, .name, .finish] := by
  unfold cut
  dsimp only
  split
  next blank => exact .inl ⟨blank, rfl⟩
  next =>
    split
    next start => exact .inr (.inl ⟨start, rfl⟩)
    next =>
      refine .inr (.inr ?_)
      -- every other lexeme has a kind of its own
      repeat' split
      all_goals simp

private theorem cut_ne_finish (first : Char) (rest : List Char) : (cut first rest).1 ≠ .finish := by
  rcases cut_cases first rest with ⟨-, isCut⟩ | ⟨-, isCut⟩ | other
  · simp [isCut]
  · rw [isCut, nameKind]
    split <;> simp
  · intro isFinish
    simp [isFinish] at other

private theorem cut_eq_blank (isBlank : cut first rest = (.blank, after)) :
    Go.isBlank first = true ∧ after = rest.dropWhile Go.isBlank := by
  rcases cut_cases first rest with ⟨blank, isCut⟩ | ⟨-, isCut⟩ | other
  · rw [isCut] at isBlank
    exact ⟨blank, (Prod.mk.inj isBlank).2.symm⟩
  · rw [isCut, nameKind] at isBlank
    split at isBlank <;> cases isBlank
  · simp [isBlank] at other

/-- A lexeme is only a name if it is cut where the name ends. -/
theorem cut_eq_name (isName : cut first rest = (.name, after)) :
    Text.isIdentifierStart first = true ∧ after = rest.dropWhile Text.isIdentifierRest := by
  rcases cut_cases first rest with ⟨-, isCut⟩ | ⟨start, isCut⟩ | other
  · rw [isCut] at isName
    cases isName
  · rw [isCut] at isName
    exact ⟨start, (Prod.mk.inj isName).2.symm⟩
  · simp [isName] at other

/-- A comment goes to the end of its line, or to the first end of a block. -/
theorem cut_eq_comment (isComment : cut first rest = (.comment, after)) :
    first = '/' ∧ ((rest.head? = some '/' ∧ after = afterLineComment rest) ∨
      ∃ inside, rest = '*' :: inside ∧ afterBlockComment? inside = some after) := by
  unfold cut nameKind at isComment
  dsimp only at isComment
  -- no other lexeme has this kind
  repeat' split at isComment
  all_goals cases isComment
  · exact ⟨rfl, .inl ⟨rfl, rfl⟩⟩
  · exact ⟨rfl, .inr ⟨_, rfl, ‹_›⟩⟩

/-! ## Words -/

theorem textBlank_of_isBlank {c : Char} (blank : isBlank c = true) : Text.isBlank c = true := by
  rw [isBlank, Bool.or_eq_true, beq_iff_eq] at blank
  rcases blank with rfl | isVertical
  · rfl
  · rw [Text.isBlank, isVertical]
    rfl

theorem isBlank_of_isAsciiNameStart {c : Char} (isStart : Text.isAsciiNameStart c = true) :
    isBlank c = false := by
  have noBlank := Text.isBlank_of_isAsciiNameRest (Text.isAsciiNameRest_of_isAsciiNameStart isStart)
  rw [Bool.eq_false_iff] at noBlank ⊢
  exact mt textBlank_of_isBlank noBlank

/-- A word goes on for as long as it can. -/
theorem cut_of_isAsciiName {others : List Char}
    (isName : TypeExpression.isAsciiName (first :: others) = true) (tail : List Char) :
    cut first (others ++ tail) =
      (nameKind (String.ofList (first :: (others ++ tail.takeWhile Text.isIdentifierRest))),
        tail.dropWhile Text.isIdentifierRest) := by
  rw [TypeExpression.isAsciiName, Bool.and_eq_true, List.all_eq_true] at isName
  obtain ⟨isStart, areRest⟩ := isName
  have areIdentifierRest : ∀ c ∈ others, Text.isIdentifierRest c = true := fun c member =>
    Text.isIdentifierRest_of_ascii (Text.lt_of_isAsciiNameRest (areRest c member))
      (areRest c member)
  have startsName : Text.isIdentifierStart first = true :=
    Text.isIdentifierStart_of_ascii
      (Text.lt_of_isAsciiNameRest (Text.isAsciiNameRest_of_isAsciiNameStart isStart)) isStart
  rw [cut.eq_def, isBlank_of_isAsciiNameStart isStart, if_neg Bool.false_ne_true, if_pos startsName,
    List.takeWhile_append_of_pos areIdentifierRest, List.dropWhile_append_of_pos areIdentifierRest]

/-! ## Numbers and marks -/

private theorem afterDigits?_eq_none {isDigit : Char → Bool}
    (noDigit : ∀ c ∈ rest.head?, isDigit c = false) : afterDigits? isDigit rest = none := by
  cases rest with
  | nil => rfl
  | cons c others => simp [afterDigits?, noDigit c rfl]

/-- A number starts with a digit, or with a point and a digit. -/
theorem afterNumber?_eq_none (noDigit : first.isDigit = false)
    (noPoint : first = '.' → ∀ c ∈ rest.head?, c.isDigit = false) :
    afterNumber? (first :: rest) = none := by
  have noZero : first ≠ '0' := by
    rintro rfl
    cases noDigit
  have noDigits : afterDigits? Char.isDigit (first :: rest) = none := by
    simp [afterDigits?, noDigit]
  have noWholes : afterWholes (first :: rest) = [] := by
    rw [afterWholes]
    · simp [noDigit]
    · exact noZero
  have noMantissas : afterMantissas Char.isDigit (first :: rest) = [] := by
    unfold afterMantissas
    split
    · rename_i point
      cases point
      rw [afterDigits?_eq_none (noPoint rfl)]
      rfl
    · rw [noDigits]
      rfl
  have noHexadecimals : afterHexadecimalFloats (first :: rest) = [] := by
    unfold afterHexadecimalFloats
    split
    · rename_i zero
      cases zero
      exact absurd rfl noZero
    · rfl
  simp [afterNumber?, noWholes, afterDecimalFloats, noMantissas, noHexadecimals, noDigits, shortest]

private theorem head?_of_isPrefixOf {mark : String} (isMark : mark ∈ marks)
    (starts : mark.toList.isPrefixOf (first :: rest) = true) : mark.toList.head? = some first := by
  have filled : ∀ mark ∈ marks, mark.toList ≠ [] := by decide
  cases chars : mark.toList with
  | nil => exact absurd chars (filled mark isMark)
  | cons c others =>
      rw [chars, List.isPrefixOf, Bool.and_eq_true, beq_iff_eq] at starts
      rw [starts.1, List.head?_cons]

private theorem afterMark?_eq_none (noMark : ∀ mark ∈ marks, mark.toList.head? ≠ some first) :
    afterMark? (first :: rest) = none := by
  rw [afterMark?, Option.map_eq_none_iff, List.find?_eq_none]
  exact fun mark isMark starts => noMark mark isMark (head?_of_isPrefixOf isMark starts)

/-- A mark of one character is cut where no longer mark can be. -/
theorem afterMark?_eq_some (mark : String) {next : Char} (isMark : mark ∈ marks)
    (isText : mark.toList = [first])
    (longer : ∀ other ∈ marks, other.toList.head? = some first →
      other = mark ∨ other.toList.tail.head? = some next)
    (noNext : ∀ c ∈ rest.head?, c ≠ next) : afterMark? (first :: rest) = some rest := by
  have starts : mark.toList.isPrefixOf (first :: rest) = true := by simp [isText]
  have length : mark.length = 1 := by rw [← String.length_toList, isText]; rfl
  have only : ∀ other ∈ marks, other.toList.isPrefixOf (first :: rest) = true → other = mark := by
    intro other isOther otherStarts
    refine (longer other isOther (head?_of_isPrefixOf isOther otherStarts)).resolve_right ?_
    intro isNext
    cases chars : other.toList with
    | nil => simp [chars] at isNext
    | cons c others =>
        rw [chars, List.tail_cons] at isNext
        cases others with
        | nil => cases isNext
        | cons d more =>
            cases rest with
            | nil => simp [chars, List.isPrefixOf] at otherStarts
            | cons e left =>
                rw [chars, List.isPrefixOf, List.isPrefixOf, Bool.and_eq_true, Bool.and_eq_true,
                  beq_iff_eq, beq_iff_eq] at otherStarts
                cases isNext
                exact noNext e rfl otherStarts.2.1.symm
  have found : (marks.find? fun other => other.toList.isPrefixOf (first :: rest)) = some mark := by
    cases found : marks.find? fun other => other.toList.isPrefixOf (first :: rest) with
    | none => exact absurd starts (List.find?_eq_none.mp found mark isMark)
    | some other =>
        have isFirst := List.find?_eq_some_iff_append.mp found
        rw [only other (List.mem_of_find?_eq_some found) isFirst.1]
  rw [afterMark?, found, Option.map_some, length, List.drop_one, List.tail_cons]

/-- What starts no blank, no word, no literal and no comment is a mark or unknown. -/
theorem cut_eq_mark (noBlank : isBlank first = false)
    (noStart : Text.isIdentifierStart first = false) (plain : first ∉ ['"', '`', '\'', '/'])
    (noNumber : afterNumber? (first :: rest) = none) :
    cut first rest =
      match afterMark? (first :: rest) with
      | some after => (.fixed, after)
      | none => (.unknown, rest) := by
  simp only [List.mem_cons, List.not_mem_nil, or_false, not_or] at plain
  obtain ⟨noText, noRaw, noRune, noSlash⟩ := plain
  rw [cut.eq_def, noBlank, noStart, if_neg Bool.false_ne_true, if_neg Bool.false_ne_true,
    if_neg noText, if_neg noRaw, if_neg noRune]
  split
  · exact absurd rfl noSlash
  · exact absurd rfl noSlash
  · cases afterMark? (first :: rest) <;> simp only [noNumber]

theorem cut_star (noEqual : ∀ c ∈ rest.head?, c ≠ '=') : cut '*' rest = (.fixed, rest) := by
  have isMark : afterMark? ('*' :: rest) = some rest :=
    afterMark?_eq_some "*" (by decide) rfl (by decide) noEqual
  rw [cut_eq_mark rfl rfl (by decide) (afterNumber?_eq_none rfl (by rintro ⟨⟩)), isMark]

theorem cut_point (noPoint : ∀ c ∈ rest.head?, c ≠ '.' ∧ c.isDigit = false) :
    cut '.' rest = (.fixed, rest) := by
  have noNumber : afterNumber? ('.' :: rest) = none :=
    afterNumber?_eq_none rfl fun _ c isHead => (noPoint c isHead).2
  have isMark : afterMark? ('.' :: rest) = some rest :=
    afterMark?_eq_some "." (by decide) rfl (by decide) fun c isHead => (noPoint c isHead).1
  rw [cut_eq_mark rfl rfl (by decide) noNumber, isMark]

theorem isDigit_of_isBlank {c : Char} (blank : Text.isBlank c = true) : c.isDigit = false :=
  Text.forall_isBlank (P := fun c => c.isDigit = false) (by decide) blank

/-- Only a run of blanks starts with a blank. -/
theorem cut_of_isBlank (blank : Text.isBlank first = true) :
    (cut first rest).1 = .blank ∨ (cut first rest).1 = .unknown := by
  obtain ⟨noStart, plain, noMark⟩ := Text.forall_isBlank
    (P := fun c => Text.isIdentifierStart c = false ∧ c ∉ ['"', '`', '\'', '/', '.'] ∧
      ∀ mark ∈ marks, mark.toList.head? ≠ some c)
    (by decide +kernel) blank
  cases goBlank : isBlank first with
  | true =>
      left
      rw [cut.eq_def, if_pos goBlank]
  | false =>
      right
      have noNumber : afterNumber? (first :: rest) = none := by
        refine afterNumber?_eq_none (isDigit_of_isBlank blank) ?_
        rintro rfl
        exact absurd (by decide) plain
      have plainMarks : first ∉ ['"', '`', '\'', '/'] := fun member =>
        plain (List.mem_append_left ['.'] member)
      rw [cut_eq_mark goBlank noStart plainMarks noNumber, afterMark?_eq_none noMark]

/-! ## Lexemes at their places -/

/-- The lexeme is cut from the front of the characters, and `after` follows it. -/
def IsLexedAs (lexeme : Lexeme) (cs after : List Char) : Prop :=
  ∃ first more left, cs = first :: more ∧ cut first more = (lexeme.kind, left) ∧
    lexeme.text.toList = first :: more.take (more.length - left.length) ∧
    after = more.drop (more.length - left.length)

theorem take_length_sub_dropWhile (test : Char → Bool) (cs : List Char) :
    cs.take (cs.length - (cs.dropWhile test).length) = cs.takeWhile test := by
  have whole : cs.takeWhile test ++ cs.dropWhile test = cs := List.takeWhile_append_dropWhile
  have total := congrArg List.length whole
  rw [List.length_append] at total
  have count : (cs.takeWhile test).length = cs.length - (cs.dropWhile test).length := by omega
  calc cs.take (cs.length - (cs.dropWhile test).length)
      = (cs.takeWhile test ++ cs.dropWhile test).take (cs.length - (cs.dropWhile test).length) := by
        rw [whole]
    _ = cs.takeWhile test := List.take_left' count

private theorem lexemesFrom_cons (position : Position) (first : Char) (rest : List Char) :
    ∃ lexeme after, IsLexedAs lexeme (first :: rest) after ∧
      lexemesFrom position (first :: rest) = lexeme :: lexemesFrom lexeme.stop after := by
  rw [lexemesFrom]
  exact ⟨_, _, ⟨first, rest, _, rfl, rfl, String.toList_ofList, rfl⟩, rfl⟩

/-- Every lexeme of a text is cut from the front of some characters. -/
theorem exists_isLexedAs (member : lexeme ∈ lexemesFrom position cs) :
    ∃ front after, IsLexedAs lexeme front after := by
  induction position, cs using lexemesFrom.induct with
  | case1 position =>
      rw [lexemesFrom] at member
      cases member
  | case2 position first rest kind after isCut count taken next inductionHypothesis =>
      rw [lexemesFrom, isCut] at member
      rcases List.mem_cons.mp member with rfl | inRest
      · exact ⟨_, _, first, rest, after, rfl, isCut, String.toList_ofList, rfl⟩
      · exact inductionHypothesis inRest

/-- The byte order mark is not cut from the text, but it is a blank. -/
theorem exists_isLexedAs_of_mem_lexemes {source : String} (member : lexeme ∈ lexemes source)
    (noBlank : lexeme.kind ≠ .blank) : ∃ front after, IsLexedAs lexeme front after := by
  unfold lexemes at member
  split at member
  · rcases List.mem_cons.mp member with rfl | inRest
    · exact absurd rfl noBlank
    · exact exists_isLexedAs inRest
  · exact exists_isLexedAs member

namespace IsLexedAs

theorem append (isLexed : IsLexedAs lexeme cs after) : lexeme.text.toList ++ after = cs := by
  obtain ⟨first, more, left, rfl, -, isText, rfl⟩ := isLexed
  rw [isText, List.cons_append, List.take_append_drop]

theorem length_lt (isLexed : IsLexedAs lexeme cs after) : after.length < cs.length := by
  obtain ⟨first, more, left, rfl, -, -, rfl⟩ := isLexed
  rw [List.length_drop, List.length_cons]
  omega

theorem kind_ne_finish (isLexed : IsLexedAs lexeme cs after) : lexeme.kind ≠ .finish := by
  obtain ⟨first, more, left, -, isCut, -, -⟩ := isLexed
  have noFinish := cut_ne_finish first more
  rwa [isCut] at noFinish

theorem isBlank_of_mem (isLexed : IsLexedAs lexeme cs after) (isBlank : lexeme.kind = .blank) :
    ∀ c ∈ lexeme.text.toList, Go.isBlank c = true := by
  obtain ⟨first, more, left, -, isCut, isText, -⟩ := isLexed
  obtain ⟨blank, rfl⟩ := cut_eq_blank (isCut.trans (congrArg (·, left) isBlank))
  rw [isText, take_length_sub_dropWhile]
  exact List.forall_mem_cons.mpr ⟨blank, List.all_eq_true.mp List.all_takeWhile⟩

/-- A lexeme that is known and no run of blanks starts with a character that is no blank. -/
theorem exists_cons (isLexed : IsLexedAs lexeme cs after) (noBlank : lexeme.kind ≠ .blank)
    (known : lexeme.kind ≠ .unknown) :
    ∃ first others, lexeme.text.toList = first :: others ∧ Text.isBlank first = false := by
  obtain ⟨first, more, left, -, isCut, isText, -⟩ := isLexed
  refine ⟨first, _, isText, Bool.eq_false_iff.mpr fun blank => ?_⟩
  have isKind : (cut first more).1 = .blank ∨ (cut first more).1 = .unknown := cut_of_isBlank blank
  rw [isCut] at isKind
  exact isKind.elim noBlank known

/-- A word goes on for as long as it can. -/
theorem word {name tail : List Char} (isName : TypeExpression.isAsciiName name = true)
    (isLexed : IsLexedAs lexeme (name ++ tail) after) :
    lexeme.text.toList = name ++ tail.takeWhile Text.isIdentifierRest ∧
      lexeme.kind = nameKind lexeme.text := by
  cases name with
  | nil => cases isName
  | cons first others =>
      obtain ⟨_, _, left, same, isCut, isText, -⟩ := isLexed
      rw [List.cons_append] at same
      obtain ⟨rfl, rfl⟩ := List.cons_eq_cons.mp same
      rw [cut_of_isAsciiName isName] at isCut
      obtain ⟨isKind, rfl⟩ := Prod.mk.inj isCut
      have parts : others ++ tail = (others ++ tail.takeWhile Text.isIdentifierRest) ++
          tail.dropWhile Text.isIdentifierRest := by
        rw [List.append_assoc, List.takeWhile_append_dropWhile]
      rw [parts, List.length_append, Nat.add_sub_cancel, List.take_left] at isText
      refine ⟨isText, ?_⟩
      rw [← isKind, ← isText, String.ofList_toList]

theorem mark {kind : LexemeKind} (isLexed : IsLexedAs lexeme (first :: rest) after)
    (isMark : cut first rest = (kind, rest)) :
    lexeme.text.toList = [first] ∧ lexeme.kind = kind := by
  obtain ⟨_, _, left, same, isCut, isText, -⟩ := isLexed
  obtain ⟨rfl, rfl⟩ := List.cons_eq_cons.mp same
  rw [isMark] at isCut
  obtain ⟨isKind, rfl⟩ := Prod.mk.inj isCut
  rw [Nat.sub_self, List.take_zero] at isText
  exact ⟨isText, isKind.symm⟩

end IsLexedAs

/-! ## Tokens in a row -/

/-- The lexeme is a comment or a run of blanks. -/
def IsGap (lexeme : Lexeme) : Prop :=
  lexeme.kind = .comment ∨ ∀ c ∈ lexeme.text.toList, isBlank c = true

/-- The first token of characters, given what stands before them: the end of the source, or a
lexeme behind blanks and comments. -/
theorem exists_of_tokensAfter {others : List Token}
    (isTokens : tokensAfter lead position (lexemesFrom position cs) = token :: others) :
    (token.lexeme.kind = .finish ∧ others = []) ∨
      ∃ gap start after next, token.lead = lead ++ gap ∧ (∀ lexeme ∈ gap, IsGap lexeme) ∧
        cs = gap.flatMap (fun lexeme => lexeme.text.toList) ++ start ∧
        IsLexedAs token.lexeme start after ∧ token.lexeme.kind ≠ .blank ∧
        others = tokensAfter [] next (lexemesFrom next after) := by
  generalize isLength : cs.length = length
  induction length using Nat.strongRecOn generalizing lead position cs with
  | ind length inductionHypothesis =>
      cases cs with
      | nil =>
          rw [lexemesFrom, tokensAfter] at isTokens
          obtain ⟨rfl, rfl⟩ := List.cons_eq_cons.mp isTokens
          exact .inl ⟨rfl, rfl⟩
      | cons first rest =>
          obtain ⟨lexeme, after, isLexed, isLexemes⟩ := lexemesFrom_cons position first rest
          rw [isLexemes, tokensAfter] at isTokens
          split at isTokens
          · rename_i isLead
            have shorter : after.length < length := isLength ▸ isLexed.length_lt
            rcases inductionHypothesis after.length shorter isTokens rfl with
              isFinish | ⟨gap, start, left, next, isGap, areGaps, isAfter, found⟩
            · exact .inl isFinish
            · refine .inr ⟨lexeme :: gap, start, left, next, ?_, ?_, ?_, found⟩
              · rw [isGap, List.append_assoc, List.singleton_append]
              · exact List.forall_mem_cons.mpr
                  ⟨isLead.symm.imp_right isLexed.isBlank_of_mem, areGaps⟩
              · rw [List.flatMap_cons, List.append_assoc, ← isAfter, isLexed.append]
          · rename_i noLead
            obtain ⟨rfl, rfl⟩ := List.cons_eq_cons.mp isTokens
            rw [not_or] at noLead
            exact .inr ⟨[], first :: rest, after, lexeme.stop, (List.append_nil lead).symm,
              List.forall_mem_nil _, rfl, isLexed, noLead.1, rfl⟩

/-- The end of the tokens of characters is the tokens of other characters. -/
theorem exists_of_suffix {tail : List Token}
    (isEnd : tail <:+ tokensAfter lead position (lexemesFrom position cs)) (filled : tail ≠ []) :
    ∃ lead position cs, tail = tokensAfter lead position (lexemesFrom position cs) := by
  obtain ⟨front, isTokens⟩ := isEnd
  induction front generalizing lead position cs with
  | nil => exact ⟨lead, position, cs, isTokens⟩
  | cons token front inductionHypothesis =>
      rcases exists_of_tokensAfter isTokens.symm with
        ⟨-, noOthers⟩ | ⟨gap, start, after, next, -, -, -, -, -, others⟩
      · exact absurd (List.append_eq_nil_iff.mp noOthers).2 filled
      · exact inductionHypothesis others

/-- Nothing stands in a token but lexemes of the source and its end. -/
theorem mem_of_mem_tokensAfter {lexemes : List Lexeme}
    (member : token ∈ tokensAfter lead position lexemes) :
    (∀ lexeme ∈ token.lead, lexeme ∈ lead ∨ lexeme ∈ lexemes) ∧
      (token.lexeme ∈ lexemes ∨ token.lexeme.kind = .finish) := by
  induction lexemes generalizing lead position with
  | nil =>
      rw [tokensAfter, List.mem_singleton] at member
      rw [member]
      exact ⟨fun lexeme => .inl, .inr rfl⟩
  | cons first rest inductionHypothesis =>
      rw [tokensAfter] at member
      split at member
      · obtain ⟨inLead, isLexeme⟩ := inductionHypothesis member
        refine ⟨fun lexeme isIn => ?_, isLexeme.imp_left (List.mem_cons_of_mem first)⟩
        have parts := inLead lexeme isIn
        rw [List.mem_append, List.mem_singleton, or_assoc] at parts
        rwa [List.mem_cons]
      · rcases List.mem_cons.mp member with rfl | inRest
        · exact ⟨fun lexeme => .inl, .inl List.mem_cons_self⟩
        · obtain ⟨inLead, isLexeme⟩ := inductionHypothesis inRest
          refine ⟨fun lexeme isIn => .inr ?_, isLexeme.imp_left (List.mem_cons_of_mem first)⟩
          exact List.mem_cons_of_mem first ((inLead lexeme isIn).resolve_left List.not_mem_nil)

private theorem exists_tokens (source : String) :
    ∃ lead position cs, tokens source = tokensAfter lead position (lexemesFrom position cs) := by
  rw [tokens, lexemes]
  split
  · rw [tokensAfter, if_pos (.inl rfl)]
    exact ⟨_, _, _, rfl⟩
  · exact ⟨_, _, _, rfl⟩

/-- Nothing stands behind the end of a source. -/
theorem eq_nil_of_isFinish {source : String} {others : List Token}
    (isEnd : token :: others <:+ tokens source) (isFinish : token.isFinish = true) :
    others = [] := by
  obtain ⟨lead, position, cs, isTokens⟩ := exists_tokens source
  rw [isTokens] at isEnd
  obtain ⟨lead, position, cs, isTail⟩ := exists_of_suffix isEnd (List.cons_ne_nil _ _)
  rcases exists_of_tokensAfter isTail.symm with
    ⟨-, noOthers⟩ | ⟨gap, start, after, next, -, -, -, isLexed, -, -⟩
  · exact noOthers
  · exact absurd (of_decide_eq_true isFinish) isLexed.kind_ne_finish

/-! ## Tokens and their characters -/

/-- The token is no end and no character that starts no lexeme. -/
def Token.IsReadable (token : Token) : Prop :=
  token.lexeme.kind ≠ .unknown ∧ token.lexeme.kind ≠ .finish

/-- The characters are those of the tokens, each behind blanks, and `rest` follows them. -/
inductive AreSpelled (rest : List Char) : List Token → List Char → Prop
  | nil : AreSpelled rest [] []
  | cons {token : Token} {others : List Token} {gap more : List Char}
      (areBlank : ∀ c ∈ gap, isBlank c = true)
      (isLexed : IsLexedAs token.lexeme (token.lexeme.text.toList ++ (more ++ rest)) (more ++ rest))
      (starts : ∃ first behind, token.lexeme.text.toList = first :: behind ∧
        Text.isBlank first = false)
      (areOthers : AreSpelled rest others more) :
      AreSpelled rest (token :: others) (gap ++ (token.lexeme.text.toList ++ more))

private theorem toList_fullText (token : Token) :
    token.fullText.toList =
      token.lead.flatMap (fun lexeme => lexeme.text.toList) ++ token.lexeme.text.toList := by
  rw [Token.fullText, String.toList_append, String.toList_join, List.flatMap_map]

private theorem toList_sliceText (first : Token) (others : List Token) :
    (sliceText (first :: others)).toList =
      first.lexeme.text.toList ++ others.flatMap fun token => token.fullText.toList := by
  rw [sliceText, String.toList_append, String.toList_join, List.flatMap_map]

private theorem isBlank_of_gap {gap : List Lexeme} (areGaps : ∀ lexeme ∈ gap, IsGap lexeme)
    (noComment : (gap.filter fun lexeme => lexeme.kind = .comment) = []) :
    ∀ c ∈ gap.flatMap (fun lexeme => lexeme.text.toList), isBlank c = true := by
  intro c member
  obtain ⟨lexeme, inGap, inText⟩ := List.mem_flatMap.mp member
  have isNoComment := List.filter_eq_nil_iff.mp noComment lexeme inGap
  exact (areGaps lexeme inGap).resolve_left (by simpa using isNoComment) c inText

/-- Tokens without comments before them are spelled by their full texts. -/
theorem exists_areSpelled {tokens back : List Token}
    (isTokens : tokensAfter [] position (lexemesFrom position cs) = tokens ++ back)
    (readable : ∀ token ∈ tokens, token.IsReadable)
    (noComments : ∀ token ∈ tokens, token.comments = []) :
    ∃ rest, cs = tokens.flatMap (fun token => token.fullText.toList) ++ rest ∧
      AreSpelled rest tokens (tokens.flatMap fun token => token.fullText.toList) := by
  induction tokens generalizing position cs with
  | nil => exact ⟨cs, rfl, .nil⟩
  | cons token others inductionHypothesis =>
      obtain ⟨isReadable, othersReadable⟩ := List.forall_mem_cons.mp readable
      obtain ⟨noComment, othersNoComments⟩ := List.forall_mem_cons.mp noComments
      rcases exists_of_tokensAfter isTokens with
        ⟨isFinish, -⟩ | ⟨gap, start, after, next, isGap, areGaps, isText, isLexed, noBlank, isRest⟩
      · exact absurd isFinish isReadable.2
      · obtain ⟨rest, rfl, spelled⟩ :=
          inductionHypothesis isRest.symm othersReadable othersNoComments
        rw [List.nil_append] at isGap
        rw [Token.comments, isGap] at noComment
        rw [List.flatMap_cons, toList_fullText, isGap, List.append_assoc]
        refine ⟨rest, ?_, .cons (isBlank_of_gap areGaps noComment) ?_
          (isLexed.exists_cons noBlank isReadable.1) spelled⟩
        · rw [isText, ← isLexed.append]
          simp only [List.append_assoc]
        · rwa [isLexed.append]

/-- The text of a run of a source is spelled by its tokens, if no comment stands in it. -/
theorem exists_areSpelled_sliceText {source : String} {first : Token} {others : List Token}
    (inRow : first :: others <:+: tokens source)
    (readable : ∀ token ∈ first :: others, token.IsReadable)
    (noComments : ∀ token ∈ others, token.comments = []) :
    ∃ rest,
      AreSpelled rest (⟨[], first.lexeme⟩ :: others) (sliceText (first :: others)).toList := by
  obtain ⟨front, back, isSource⟩ := inRow
  obtain ⟨isReadable, othersReadable⟩ := List.forall_mem_cons.mp readable
  obtain ⟨lead, position, cs, isTokens⟩ := exists_tokens source
  have isEnd :
      first :: (others ++ back) <:+ tokensAfter lead position (lexemesFrom position cs) := by
    rw [← isTokens, ← isSource, List.append_assoc]
    exact List.suffix_append front _
  obtain ⟨lead, position, cs, isTail⟩ := exists_of_suffix isEnd (List.cons_ne_nil _ _)
  rcases exists_of_tokensAfter isTail.symm with
    ⟨isFinish, -⟩ | ⟨gap, start, after, next, -, -, -, isLexed, noBlank, isRest⟩
  · exact absurd isFinish isReadable.2
  · obtain ⟨rest, rfl, spelled⟩ := exists_areSpelled isRest.symm othersReadable noComments
    rw [toList_sliceText]
    have isFirst : AreSpelled rest (⟨[], first.lexeme⟩ :: others)
        ([] ++ (first.lexeme.text.toList ++ others.flatMap fun token => token.fullText.toList)) :=
      .cons (List.forall_mem_nil _) (by rwa [isLexed.append])
        (isLexed.exists_cons noBlank isReadable.1) spelled
    exact ⟨rest, isFirst⟩

end AddonBindings.Go
