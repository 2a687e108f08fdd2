import Mathlib.Data.List.Find
import AddonBindings.Proofs.Go.Lexing
import AddonBindings.Proofs.Go.Returns.Number

/-!
Contract: lexemes do not depend on how lines are ended.

Owns:
- the readers of runes, texts, comments and marks that take the same characters with and
  without returns at the ends of the lines;
- where an interpreted text is read differently, which is where a line ends inside it;
- the lexeme at the start of characters with and without returns.

Does not own: the lexemes of a source, which are in `AddonBindings.Proofs.Go.LineEndings`.
-/

namespace AddonBindings.Go.Literal

open Text

variable {read next : List Char → Option (List Char)} {isDigit : Char → Bool}
  {cs after : List Char} {c : Char}

/-! ## Runes and texts -/

private theorem afterExactly?_cons (count : Nat) (isMember : Char → Bool) (c : Char)
    (rest : List Char) :
    afterExactly? (count + 1) isMember (c :: rest) =
      if isMember c then afterExactly? count isMember rest else none := by
  cases member : isMember c with
  | true => simp [afterExactly?, member]
  | false => simp [afterExactly?, member]

private theorem keepsReturns_afterExactly? (isClass : IsDigitClass isDigit) (count : Nat) :
    KeepsReturns (afterExactly? count isDigit) := by
  induction count with
  | zero => exact keepsReturns_some
  | succ count inductionHypothesis =>
      have none : afterExactly? (count + 1) isDigit [] = none := rfl
      constructor
      · intro cs after found
        cases cs with
        | nil => cases found
        | cons c rest =>
            rw [afterExactly?_cons] at found
            split at found
            · exact (inductionHypothesis.suffix found).trans (List.suffix_cons c rest)
            · cases found
      · intro cs
        cases cs with
        | nil => rfl
        | cons c rest =>
            by_cases isFeed : c = '\n'
            · rw [isFeed, withReturns_lineFeed, afterExactly?_cons, afterExactly?_cons,
                isClass.returns, isClass.lineFeed]
              rfl
            · rw [withReturns_cons isFeed, afterExactly?_cons, afterExactly?_cons,
                inductionHypothesis.returns]
              split <;> rfl

private theorem keepsReturns_afterCode? : KeepsReturns afterCode? where
  suffix {cs after} found := by
    have digits (count : Nat) := keepsReturns_afterExactly? isDigitClass_isHexadecimal count
    unfold afterCode? at found
    split at found
    · exact ((digits 2).suffix found).trans (List.suffix_cons _ _)
    · exact ((digits 4).suffix found).trans (List.suffix_cons _ _)
    · exact ((digits 8).suffix found).trans (List.suffix_cons _ _)
    · cases found
  returns cs := by
    have digits (count : Nat) :=
      (keepsReturns_afterExactly? isDigitClass_isHexadecimal count).returns
    cases cs with
    | nil => rfl
    | cons c rest =>
        by_cases isFeed : c = '\n'
        · rw [isFeed]
          rfl
        · rw [withReturns_cons isFeed]
          by_cases isCode : c = 'x' ∨ c = 'u' ∨ c = 'U'
          · rcases isCode with rfl | rfl | rfl
            · exact digits 2 rest
            · exact digits 4 rest
            · exact digits 8 rest
          · rw [not_or, not_or] at isCode
            obtain ⟨noX, noLower, noUpper⟩ := isCode
            have none (others : List Char) : afterCode? (c :: others) = none := by
              unfold afterCode?
              split
              · rename_i same
                exact absurd (List.cons_eq_cons.mp same).1 noX
              · rename_i same
                exact absurd (List.cons_eq_cons.mp same).1 noLower
              · rename_i same
                exact absurd (List.cons_eq_cons.mp same).1 noUpper
              · rfl
            rw [none, none]
            rfl

theorem KeepsReturns.or (keeps : KeepsReturns read) (others : KeepsReturns next) :
    KeepsReturns fun cs => (read cs).or (next cs) where
  suffix found := by
    rw [Option.or_eq_some_iff] at found
    exact found.elim keeps.suffix fun isOther => others.suffix isOther.2
  returns cs := by
    rw [keeps.returns, others.returns]
    cases read cs <;> rfl

def shortEscapes : List Char := ['a', 'b', 'f', 'n', 'r', 't', 'v', '\\', '\'']

private theorem afterRune?_escape (c : Char) (rest : List Char) :
    afterRune? ('\\' :: c :: rest) =
      if c ∈ shortEscapes then afterClosing? '\'' (some rest)
      else afterClosing? '\''
        ((afterExactly? 3 isOctal (c :: rest)).or (afterCode? (c :: rest))) := by
  rw [afterRune?, shortEscapes]
  refine if_congr Iff.rfl ?_ ?_
  -- what is found differs, but not how it is closed
  all_goals
    refine eq_afterClosing? (fun rest isMarked => ?_) fun noMark => ?_
    · simp only [isMarked]
    · dsimp only
      split
      · rename_i isMarked
        exact absurd isMarked (noMark _)
      · rfl

private theorem afterRune?_plain (noEscape : c = '\\' → cs = []) :
    afterRune? (c :: cs) =
      if c = '\'' ∨ c = '\n' then none else afterClosing? '\'' (some cs) := by
  unfold afterRune?
  dsimp only
  split
  · rename_i same
    obtain ⟨rfl, rfl⟩ := List.cons_eq_cons.mp same
    cases noEscape rfl
  · rename_i same
    obtain ⟨rfl, rfl⟩ := List.cons_eq_cons.mp same
    refine if_congr Iff.rfl rfl (eq_afterClosing? (fun rest isMarked => ?_) fun noMark => ?_)
    · simp only [isMarked]
    · split
      · rename_i isMarked
        exact absurd isMarked (noMark _)
      · rfl
  · rename_i same
    cases same

private theorem keepsReturns_afterRune? : KeepsReturns afterRune? := by
  have closed := keepsReturns_some.afterClosing? '\'' (by decide)
  have code := ((keepsReturns_afterExactly? isDigitClass_isOctal 3).or
    keepsReturns_afterCode?).afterClosing? '\'' (by decide)
  constructor
  · intro cs after found
    have plain {c : Char} {rest : List Char} (noEscape : c = '\\' → rest = [])
        (found : afterRune? (c :: rest) = some after) : after <:+ c :: rest := by
      rw [afterRune?_plain noEscape] at found
      split at found
      · cases found
      · exact (closed.suffix found).trans (List.suffix_cons c rest)
    match cs with
    | [] => cases found
    | [c] => exact plain (fun _ => rfl) found
    | c :: d :: rest =>
        by_cases isEscape : c = '\\'
        · rw [isEscape, afterRune?_escape] at found
          split at found
          · exact (closed.suffix found).trans ((List.suffix_cons d rest).trans
              (List.suffix_cons c _))
          · exact (code.suffix found).trans (List.suffix_cons c _)
        · exact plain (fun isEscape' => absurd isEscape' isEscape) found
  · intro cs
    match cs with
    | [] => rfl
    | [c] =>
        by_cases isFeed : c = '\n'
        · rw [isFeed]
          rfl
        · rw [withReturns_of_not_mem (by simpa using Ne.symm isFeed),
            afterRune?_plain fun _ => rfl]
          split <;> rfl
    | c :: d :: rest =>
        by_cases isFeed : c = '\n'
        · rw [isFeed]
          rfl
        by_cases isEscape : c = '\\'
        · rw [isEscape, withReturns_cons (by decide)]
          by_cases nextIsFeed : d = '\n'
          · have noShort : '\r' ∉ shortEscapes ∧ '\n' ∉ shortEscapes := by decide
            rw [nextIsFeed, withReturns_lineFeed, afterRune?_escape, afterRune?_escape,
              if_neg noShort.1, if_neg noShort.2, afterExactly?_cons 2 isOctal '\r',
              afterExactly?_cons 2 isOctal '\n']
            rfl
          · rw [withReturns_cons nextIsFeed, afterRune?_escape, afterRune?_escape,
              ← withReturns_cons nextIsFeed, closed.returns, code.returns]
            split <;> rfl
        · have noEscape (others : List Char) : c = '\\' → others = [] :=
            fun isEscape' => absurd isEscape' isEscape
          rw [withReturns_cons isFeed, afterRune?_plain (noEscape _),
            afterRune?_plain (noEscape _), closed.returns]
          split <;> rfl

private theorem keepsReturns_afterRaw? : KeepsReturns afterRaw? where
  suffix {cs after} found := by
    induction cs with
    | nil => cases found
    | cons c rest inductionHypothesis =>
        rw [afterRaw?] at found
        split at found
        · cases found
          exact List.suffix_cons c _
        · exact (inductionHypothesis found).trans (List.suffix_cons c rest)
  returns cs := by
    induction cs with
    | nil => rfl
    | cons c rest inductionHypothesis =>
        by_cases isFeed : c = '\n'
        · rw [isFeed, withReturns_lineFeed, afterRaw?, if_neg (by decide), afterRaw?,
            if_neg (by decide), inductionHypothesis, afterRaw?, if_neg (by decide)]
        · rw [withReturns_cons isFeed, afterRaw?, afterRaw?, inductionHypothesis]
          split <;> rfl

/-! ## Interpreted texts -/

/-- A text that is closed stays so if its lines are ended with returns, unless a line ends
inside it. -/
theorem afterInterpreted?_withReturns (cs : List Char) :
    (afterInterpreted? cs = none ∧ afterInterpreted? (withReturns cs) = none) ∨
      ∃ inside after, cs = inside ++ after ∧ afterInterpreted? cs = some after ∧
        afterInterpreted? (withReturns cs) =
          if '\n' ∈ inside then none else some (withReturns after) := by
  have lineEnds (rest : List Char) : afterInterpreted? ('\n' :: rest) = none := rfl
  induction cs using afterInterpreted?.induct with
  | case1 => exact .inl ⟨rfl, rfl⟩
  | case2 rest =>
      refine .inr ⟨['"'], rest, rfl, rfl, ?_⟩
      rw [if_neg (by decide), withReturns_cons (by decide)]
      rfl
  | case3 c rest noCode =>
      have noFeed : c ≠ '\n' := by
        rintro rfl
        exact absurd noCode.1 (by decide)
      rw [withReturns_cons (by decide), withReturns_cons noFeed, afterInterpreted?, if_pos noCode,
        afterInterpreted?, ← withReturns_cons noFeed, keepsReturns_afterCode?.returns,
        Option.isNone_map, if_pos noCode]
      exact .inl ⟨rfl, rfl⟩
  | case4 c rest code inductionHypothesis =>
      rw [afterInterpreted?, if_neg code, withReturns_cons (by decide)]
      by_cases isFeed : c = '\n'
      · rw [isFeed, withReturns_lineFeed, afterInterpreted?, if_neg (by simp), lineEnds]
        rcases inductionHypothesis with ⟨none, -⟩ | ⟨inside, after, rfl, found, -⟩
        · exact .inl ⟨none, rfl⟩
        · exact .inr ⟨'\\' :: '\n' :: inside, after, rfl, found, by rw [if_pos (by simp)]⟩
      · rw [withReturns_cons isFeed, afterInterpreted?, ← withReturns_cons isFeed,
          keepsReturns_afterCode?.returns, Option.isNone_map, if_neg code]
        rcases inductionHypothesis with none | ⟨inside, after, rfl, found, same⟩
        · exact .inl none
        · refine .inr ⟨'\\' :: c :: inside, after, rfl, found, same.trans ?_⟩
          simp [Ne.symm isFeed]
  | case5 rest => exact .inl ⟨rfl, rfl⟩
  | case6 c rest noMark noPair noFeed inductionHypothesis =>
      have noLongerPair : ∀ d others, c = '\\' → withReturns rest = d :: others → False := by
        intro d others isEscape isRest
        cases rest with
        | nil => cases isRest
        | cons e more => exact noPair e more isEscape rfl
      rw [withReturns_cons noFeed, afterInterpreted?.eq_4 _ _ noMark noPair, if_neg noFeed,
        afterInterpreted?.eq_4 _ _ noMark noLongerPair, if_neg noFeed]
      rcases inductionHypothesis with none | ⟨inside, after, rfl, found, same⟩
      · exact .inl none
      · refine .inr ⟨c :: inside, after, rfl, found, same.trans ?_⟩
        simp [Ne.symm noFeed]

end AddonBindings.Go.Literal

namespace AddonBindings.Go

open Literal Text

variable {first : Char} {cs rest inside after : List Char} {kind : LexemeKind}

/-! ## Comments, words and marks -/

private theorem keepsReturns_afterBlockComment? : KeepsReturns afterBlockComment? where
  suffix {cs after} found := by
    induction cs using afterBlockComment?.induct with
    | case1 rest =>
        cases found
        exact (List.suffix_cons _ _).trans (List.suffix_cons _ _)
    | case2 first rest noEnd inductionHypothesis =>
        rw [afterBlockComment?.eq_2 first rest noEnd] at found
        exact (inductionHypothesis found).trans (List.suffix_cons first rest)
    | case3 => cases found
  returns cs := by
    induction cs using afterBlockComment?.induct with
    | case1 rest =>
        rw [withReturns_cons (by decide), withReturns_cons (by decide)]
        rfl
    | case2 first rest noEnd inductionHypothesis =>
        rw [afterBlockComment?.eq_2 first rest noEnd, ← inductionHypothesis]
        by_cases isFeed : first = '\n'
        · rw [isFeed, withReturns_lineFeed, afterBlockComment?.eq_2 _ _ (by rintro _ ⟨⟩),
            afterBlockComment?.eq_2 _ _ (by rintro _ ⟨⟩)]
        · rw [withReturns_cons isFeed]
          refine afterBlockComment?.eq_2 _ _ fun left isStar isSlash => ?_
          obtain ⟨others, isRest, -⟩ := exists_of_withReturns_eq_cons (by decide) isSlash
          exact noEnd others isStar isRest
    | case3 => rfl

private theorem lineEnd_not_mem_marks : ∀ mark ∈ marks, '\n' ∉ mark.toList ∧ '\r' ∉ mark.toList :=
    by
  decide

private theorem exists_of_afterMark? (found : afterMark? cs = some after) :
    ∃ mark ∈ marks, cs = mark.toList ++ after := by
  obtain ⟨mark, isFirst, isRest⟩ := Option.map_eq_some_iff.mp found
  have isPrefix := (List.find?_eq_some_iff_append.mp isFirst).1
  obtain ⟨left, rfl⟩ := List.isPrefixOf_iff_prefix.mp isPrefix
  rw [← String.length_toList, List.drop_left] at isRest
  exact ⟨mark, List.mem_of_find?_eq_some isFirst, by rw [isRest]⟩

private theorem keepsReturns_afterMark? : KeepsReturns afterMark? where
  suffix {cs after} found := by
    obtain ⟨mark, -, rfl⟩ := exists_of_afterMark? found
    exact List.suffix_append _ _
  returns cs := by
    have same : (marks.find? fun mark => mark.toList.isPrefixOf (withReturns cs)) =
        marks.find? fun mark => mark.toList.isPrefixOf cs :=
      List.find?_congr fun mark isMark =>
        isPrefixOf_withReturns (lineEnd_not_mem_marks mark isMark).1
          (lineEnd_not_mem_marks mark isMark).2 cs
    rw [afterMark?, afterMark?, same]
    cases found : marks.find? fun mark => mark.toList.isPrefixOf cs with
    | none => rfl
    | some mark =>
        obtain ⟨left, rfl⟩ :=
          List.isPrefixOf_iff_prefix.mp (List.find?_eq_some_iff_append.mp found).1
        have noFeed := (lineEnd_not_mem_marks mark (List.mem_of_find?_eq_some found)).1
        rw [Option.map_some, Option.map_some, Option.map_some, withReturns_append,
          withReturns_of_not_mem noFeed, ← String.length_toList, List.drop_left, List.drop_left]

/-! ## Lexemes -/

/-- How a lexeme is cut if the lines behind its first character are ended with returns. -/
inductive IsCutWithReturns (first : Char) (rest : List Char) : Prop
  /-- The lexeme goes over the same characters. -/
  | same {kind : LexemeKind} {inside after : List Char} (isRest : rest = inside ++ after)
      (isCut : cut first rest = (kind, after))
      (returns : cut first (withReturns rest) = (kind, withReturns after))
      (inLine : kind = .name ∨ kind = .fixed ∨ kind = .text ∧ first = '"' → '\n' ∉ inside)
      (isBlock : kind = .comment → rest.head? ≠ some '/')
  /-- The lexeme is a line comment. -/
  | line (isComment : first = '/' ∧ rest.head? = some '/')
  /-- The lexeme is an interpreted text inside which a line ends. -/
  | broken {inside after : List Char} (isRest : rest = inside ++ after) (isMark : first = '"')
      (isBroken : '\n' ∈ inside) (isCut : cut first rest = (.text, after))
      (returns : cut first (withReturns rest) = (.unknown, withReturns rest))

/-- A lexeme that a reader finds goes over the same characters. -/
theorem IsCutWithReturns.of_found {found : Option (List Char)}
    (noWord : ¬ (kind = .name ∨ kind = .fixed ∨ kind = .text ∧ first = '"'))
    (isBlock : kind = .comment → rest.head? ≠ some '/')
    (isCut : cut first rest =
      match found with
      | some after => (kind, after)
      | none => (.unknown, rest))
    (returns : cut first (withReturns rest) =
      match found.map withReturns with
      | some after => (kind, after)
      | none => (.unknown, withReturns rest))
    (suffix : ∀ {after : List Char}, found = some after → after <:+ rest) :
    IsCutWithReturns first rest := by
  cases found with
  | none => exact .same (List.nil_append rest).symm isCut returns (by simp) (by rintro ⟨⟩)
  | some after =>
      obtain ⟨inside, isRest⟩ := suffix rfl
      refine .same isRest.symm isCut returns (fun isWord => ?_) isBlock
      exact absurd isWord noWord

private theorem isCutWithReturns_interpreted (rest : List Char) : IsCutWithReturns '"' rest := by
  have isCut (others : List Char) : cut '"' others =
      match afterInterpreted? others with
      | some after => (.text, after)
      | none => (.unknown, others) := rfl
  rcases afterInterpreted?_withReturns rest with
    ⟨none, returnsNone⟩ | ⟨inside, after, isRest, found, returns⟩
  · have unknown : cut '"' rest = (.unknown, rest) := by rw [isCut, none]
    exact .same (List.nil_append rest).symm unknown (by rw [isCut, returnsNone]) (by simp)
      (by rintro ⟨⟩)
  · have isText : cut '"' rest = (.text, after) := by rw [isCut, found]
    by_cases isBroken : '\n' ∈ inside
    · rw [if_pos isBroken] at returns
      exact .broken isRest rfl isBroken isText (by rw [isCut, returns])
    · rw [if_neg isBroken] at returns
      exact .same isRest isText (by rw [isCut, returns]) (fun _ => isBroken) (by rintro ⟨⟩)

private theorem exists_inLine_of_afterMark? (found : afterMark? (first :: rest) = some after) :
    ∃ inside, rest = inside ++ after ∧ '\n' ∉ inside := by
  obtain ⟨mark, isMark, isText⟩ := exists_of_afterMark? found
  have noFeed := (lineEnd_not_mem_marks mark isMark).1
  have filled : ∀ mark ∈ marks, mark.toList ≠ [] := by decide
  cases chars : mark.toList with
  | nil => exact absurd chars (filled mark isMark)
  | cons c inside =>
      rw [chars, List.cons_append] at isText
      rw [chars, List.mem_cons, not_or] at noFeed
      exact ⟨inside, (List.cons_eq_cons.mp isText).2, noFeed.2⟩

private theorem isCutWithReturns_mark (noFeed : first ≠ '\n') (rest : List Char)
    (isCut : cut first rest =
      match afterMark? (first :: rest) with
      | some after => (.fixed, after)
      | none => (.unknown, rest))
    (returns : cut first (withReturns rest) =
      match afterMark? (first :: withReturns rest) with
      | some after => (.fixed, after)
      | none => (.unknown, withReturns rest)) : IsCutWithReturns first rest := by
  rw [← withReturns_cons noFeed, keepsReturns_afterMark?.returns] at returns
  cases found : afterMark? (first :: rest) with
  | none =>
      rw [found] at isCut returns
      exact .same (List.nil_append rest).symm isCut returns (by simp) (by rintro ⟨⟩)
  | some after =>
      rw [found] at isCut returns
      obtain ⟨inside, isRest, inLine⟩ := exists_inLine_of_afterMark? found
      exact .same isRest isCut returns (fun _ => inLine) (by rintro ⟨⟩)

/-- What starts no blank, no word, no text and no comment may be a number. -/
theorem cut_eq_number (noBlank : isBlank first = false) (noStart : isIdentifierStart first = false)
    (plain : first ∉ ['"', '`', '\'', '/']) (found : afterNumber? (first :: rest) = some after) :
    cut first rest = (.number, after) := by
  simp only [List.mem_cons, List.not_mem_nil, or_false, not_or] at plain
  obtain ⟨noText, noRaw, noRune, noSlash⟩ := plain
  rw [cut.eq_def, noBlank, noStart, if_neg Bool.false_ne_true, if_neg Bool.false_ne_true,
    if_neg noText, if_neg noRaw, if_neg noRune]
  split
  · exact absurd rfl noSlash
  · exact absurd rfl noSlash
  · simp only [found]

private theorem isCutWithReturns_plain (noFeed : first ≠ '\n') (noBlank : isBlank first = false)
    (noStart : isIdentifierStart first = false) (plain : first ∉ ['"', '`', '\'', '/'])
    (rest : List Char) : IsCutWithReturns first rest := by
  cases found : afterNumber? (first :: rest) with
  | none =>
      have returns : afterNumber? (first :: withReturns rest) = none := by
        rw [← withReturns_cons noFeed, afterNumber?_withReturns, found]
        rfl
      exact isCutWithReturns_mark noFeed rest (cut_eq_mark noBlank noStart plain found)
        (cut_eq_mark noBlank noStart plain returns)
  | some after =>
      have returns : afterNumber? (first :: withReturns rest) = some (withReturns after) := by
        rw [← withReturns_cons noFeed, afterNumber?_withReturns, found]
        rfl
      have isCut := cut_eq_number noBlank noStart plain found
      obtain ⟨inside, isRest⟩ := suffix_afterNumber? found
      exact .same isRest.symm isCut (cut_eq_number noBlank noStart plain returns) (by simp)
        (by rintro ⟨⟩)

private theorem cut_slash_eq_mark (noLine : rest.head? ≠ some '/')
    (noBlock : rest.head? ≠ some '*') :
    cut '/' rest =
      match afterMark? ('/' :: rest) with
      | some after => (.fixed, after)
      | none => (.unknown, rest) := by
  have noNumber : afterNumber? ('/' :: rest) = none := afterNumber?_eq_none rfl (by rintro ⟨⟩)
  rw [cut.eq_def, if_neg (by decide), if_neg (by decide), if_neg (by decide), if_neg (by decide),
    if_neg (by decide)]
  split
  · exact absurd rfl noLine
  · exact absurd rfl noBlock
  · cases afterMark? ('/' :: _) <;> simp only [noNumber]

private theorem isCutWithReturns_slash (rest : List Char) : IsCutWithReturns '/' rest := by
  by_cases isLine : rest.head? = some '/'
  · exact .line ⟨rfl, isLine⟩
  by_cases isBlock : rest.head? = some '*'
  · cases rest with
    | nil => cases isBlock
    | cons second inside =>
        cases isBlock
        have isCut (others : List Char) : cut '/' ('*' :: others) =
            match afterBlockComment? others with
            | some after => (.comment, after)
            | none => (.unknown, '*' :: others) := rfl
        refine .of_found (by simp) (fun _ => isLine) (isCut inside) ?_ ?_
        · rw [← keepsReturns_afterBlockComment?.returns, withReturns_cons (by decide), isCut]
        · exact fun found =>
            (keepsReturns_afterBlockComment?.suffix found).trans (List.suffix_cons '*' inside)
  · exact isCutWithReturns_mark (by decide) rest (cut_slash_eq_mark isLine isBlock)
      (cut_slash_eq_mark (mt (head?_of_head?_withReturns (by decide)) isLine)
        (mt (head?_of_head?_withReturns (by decide)) isBlock))

theorem isCutWithReturns (noFeed : first ≠ '\n') (rest : List Char) :
    IsCutWithReturns first rest := by
  by_cases blank : isBlank first = true
  · have isCut (others : List Char) : cut first others = (.blank, others.dropWhile isBlank) := by
      rw [cut.eq_def, if_pos blank]
    refine .same List.takeWhile_append_dropWhile.symm (isCut rest) ?_ (by simp) (by rintro ⟨⟩)
    rw [isCut, dropWhile_withReturns rfl]
  by_cases start : isIdentifierStart first = true
  · have isCut (others : List Char) : cut first others =
        (nameKind (String.ofList (first :: others.takeWhile isIdentifierRest)),
          others.dropWhile isIdentifierRest) := by
      rw [cut.eq_def, if_neg blank, if_pos start]
    refine .same List.takeWhile_append_dropWhile.symm (isCut rest) ?_ (fun _ member => ?_) ?_
    · rw [isCut, dropWhile_withReturns rfl, takeWhile_withReturns rfl rfl]
    · cases List.all_eq_true.mp List.all_takeWhile '\n' member
    · rw [nameKind]
      split <;> rintro ⟨⟩
  by_cases isText : first = '"'
  · rw [isText]
    exact isCutWithReturns_interpreted rest
  by_cases isRaw : first = '`'
  · have isCut (others : List Char) : cut first others =
        match afterRaw? others with
        | some after => (.text, after)
        | none => (.unknown, others) := by rw [isRaw]; rfl
    refine .of_found (by simp [isText]) (by rintro ⟨⟩) (isCut rest) ?_ keepsReturns_afterRaw?.suffix
    rw [← keepsReturns_afterRaw?.returns, isCut]
  by_cases isRune : first = '\''
  · have isCut (others : List Char) : cut first others =
        match afterRune? others with
        | some after => (.rune, after)
        | none => (.unknown, others) := by rw [isRune]; rfl
    refine .of_found (by simp) (by rintro ⟨⟩) (isCut rest) ?_ keepsReturns_afterRune?.suffix
    rw [← keepsReturns_afterRune?.returns, isCut]
  by_cases isSlash : first = '/'
  · rw [isSlash]
    exact isCutWithReturns_slash rest
  exact isCutWithReturns_plain noFeed (by simpa using blank) (by simpa using start)
    (by simp [isText, isRaw, isRune, isSlash]) rest

end AddonBindings.Go
