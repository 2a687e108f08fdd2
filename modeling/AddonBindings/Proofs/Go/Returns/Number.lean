import Mathlib.Data.List.Infix
import AddonBindings.Go.Literal
import AddonBindings.Proofs.Text.LineBreaks

/-!
Contract: numbers do not depend on how lines are ended.

Owns:
- readers that take the same front of characters with and without returns at the ends of
  the lines;
- the readers of digits and numbers among them.

Does not own: the other lexemes, which are in `AddonBindings.Proofs.Go.Returns.Lexeme`.
-/

namespace AddonBindings.Go.Literal

open Text

variable {isDigit isMark : Char → Bool} {read : List Char → Option (List Char)}
  {cs after first second : List Char} {c : Char}

/-! ## Readers -/

/-- The reader takes a front of the characters, and the same one if returns are added. -/
structure KeepsReturns (read : List Char → Option (List Char)) : Prop where
  suffix {cs after : List Char} (found : read cs = some after) : after <:+ cs
  returns (cs : List Char) : read (withReturns cs) = (read cs).map withReturns

theorem keepsReturns_some : KeepsReturns some :=
  ⟨fun found => Option.some.inj found ▸ List.suffix_rfl, fun _ => rfl⟩

/-- The same of a reader that finds several rests, all of them behind the first character. -/
structure KeepReturns (read : List Char → List (Option (List Char))) : Prop where
  suffix {cs after : List Char} (found : some after ∈ read cs) : after <:+ cs.tail
  returns (cs : List Char) : read (withReturns cs) = (read cs).map (Option.map withReturns)

/-! ## Digits -/

/-- No digit is a line feed, a return or an underscore. -/
structure IsDigitClass (isDigit : Char → Bool) : Prop where
  lineFeed : isDigit '\n' = false
  returns : isDigit '\r' = false
  underscore : isDigit '_' = false

private theorem isDigitClass_isDigit : IsDigitClass Char.isDigit := ⟨rfl, rfl, rfl⟩

theorem isDigitClass_isOctal : IsDigitClass isOctal := ⟨rfl, rfl, rfl⟩

private theorem isDigitClass_isBinary : IsDigitClass isBinary := ⟨rfl, rfl, rfl⟩

theorem isDigitClass_isHexadecimal : IsDigitClass isHexadecimal := ⟨rfl, rfl, rfl⟩

theorem IsDigitClass.ne_lineFeed (isClass : IsDigitClass isDigit) (digit : isDigit c = true) :
    c ≠ '\n' := by
  rintro rfl
  rw [isClass.lineFeed] at digit
  cases digit

private theorem suffix_afterMoreDigits (isDigit : Char → Bool) (cs : List Char) :
    afterMoreDigits isDigit cs <:+ cs := by
  induction cs using afterMoreDigits.induct isDigit with
  | case1 => exact List.suffix_rfl
  | case2 c rest digit inductionHypothesis =>
      rw [afterMoreDigits, if_pos digit]
      exact inductionHypothesis.trans ((List.suffix_cons c rest).trans (List.suffix_cons _ _))
  | case3 c rest noDigit =>
      rw [afterMoreDigits, if_neg noDigit]
  | case4 c rest noPair digit inductionHypothesis =>
      rw [afterMoreDigits.eq_3 _ _ _ noPair, if_pos digit]
      exact inductionHypothesis.trans (List.suffix_cons c rest)
  | case5 c rest noPair noDigit =>
      rw [afterMoreDigits.eq_3 _ _ _ noPair, if_neg noDigit]

private theorem afterMoreDigits_withReturns (isClass : IsDigitClass isDigit) (cs : List Char) :
    afterMoreDigits isDigit (withReturns cs) = withReturns (afterMoreDigits isDigit cs) := by
  induction cs using afterMoreDigits.induct isDigit with
  | case1 => rfl
  | case2 c rest digit inductionHypothesis =>
      rw [withReturns_cons (by decide), withReturns_cons (isClass.ne_lineFeed digit),
        afterMoreDigits, if_pos digit, afterMoreDigits, if_pos digit, inductionHypothesis]
  | case3 c rest noDigit =>
      rw [afterMoreDigits, if_neg noDigit, withReturns_cons (by decide)]
      by_cases isFeed : c = '\n'
      · rw [isFeed, withReturns_lineFeed, afterMoreDigits, if_neg (by simp [isClass.returns])]
      · rw [withReturns_cons isFeed, afterMoreDigits, if_neg noDigit]
  | case4 c rest noPair digit inductionHypothesis =>
      have noUnderscore : ∀ d others, c = '_' → withReturns rest = d :: others → False := by
        rintro d others rfl
        rw [isClass.underscore] at digit
        cases digit
      rw [withReturns_cons (isClass.ne_lineFeed digit), afterMoreDigits.eq_3 _ _ _ noUnderscore,
        if_pos digit, afterMoreDigits.eq_3 _ _ _ noPair, if_pos digit, inductionHypothesis]
  | case5 c rest noPair noDigit =>
      rw [afterMoreDigits.eq_3 _ _ _ noPair, if_neg noDigit]
      by_cases isFeed : c = '\n'
      · rw [isFeed, withReturns_lineFeed, afterMoreDigits, if_neg (by simp [isClass.returns])]
        rintro _ _ ⟨⟩
      · have noLongerPair : ∀ d others, c = '_' → withReturns rest = d :: others → False := by
          intro d others isUnderscore isRest
          cases rest with
          | nil => cases isRest
          | cons e more => exact noPair e more isUnderscore rfl
        rw [withReturns_cons isFeed, afterMoreDigits.eq_3 _ _ _ noLongerPair, if_neg noDigit]

private theorem suffix_afterDigits? (found : afterDigits? isDigit cs = some after) :
    after <:+ cs.tail := by
  cases cs with
  | nil => cases found
  | cons c rest =>
      rw [afterDigits?] at found
      split at found
      · cases found
        exact suffix_afterMoreDigits isDigit rest
      · cases found

private theorem keepsReturns_afterDigits? (isClass : IsDigitClass isDigit) :
    KeepsReturns (afterDigits? isDigit) where
  suffix {cs _} found := (suffix_afterDigits? found).trans (List.tail_suffix cs)
  returns cs := by
    cases cs with
    | nil => rfl
    | cons c rest =>
        by_cases isFeed : c = '\n'
        · rw [isFeed, withReturns_lineFeed, afterDigits?, afterDigits?,
            if_neg (by simp [isClass.returns]), if_neg (by simp [isClass.lineFeed])]
          rfl
        · rw [withReturns_cons isFeed, afterDigits?, afterDigits?,
            afterMoreDigits_withReturns isClass]
          split <;> rfl

private theorem suffix_skipUnderscore (cs : List Char) : skipUnderscore cs <:+ cs := by
  unfold skipUnderscore
  split
  · exact List.suffix_cons _ _
  · exact List.suffix_rfl

private theorem skipUnderscore_withReturns (cs : List Char) :
    skipUnderscore (withReturns cs) = withReturns (skipUnderscore cs) := by
  cases cs with
  | nil => rfl
  | cons c rest =>
      by_cases isUnderscore : c = '_'
      · rw [isUnderscore, withReturns_cons (by decide)]
        rfl
      · have same (others : List Char) : skipUnderscore (c :: others) = c :: others :=
          skipUnderscore.eq_2 _ fun _ isPair => isUnderscore (List.cons_eq_cons.mp isPair).1
        by_cases isFeed : c = '\n'
        · rw [isFeed]
          rfl
        · rw [withReturns_cons isFeed, same, same, withReturns_cons isFeed]

theorem KeepsReturns.comp_skipUnderscore (keeps : KeepsReturns read) :
    KeepsReturns fun cs => read (skipUnderscore cs) where
  suffix found := (keeps.suffix found).trans (suffix_skipUnderscore _)
  returns cs := by rw [skipUnderscore_withReturns, keeps.returns]

/-- No mark is a line feed or a return. -/
structure IsMarkClass (isMark : Char → Bool) : Prop where
  lineFeed : isMark '\n' = false
  returns : isMark '\r' = false

private theorem isMarkClass_isDecimalMark : IsMarkClass isDecimalMark := ⟨rfl, rfl⟩

private theorem isMarkClass_isHexadecimalMark : IsMarkClass isHexadecimalMark := ⟨rfl, rfl⟩

private theorem keepsReturns_afterExponent? (isClass : IsMarkClass isMark) :
    KeepsReturns (afterExponent? isMark) where
  suffix {cs after} found := by
    have digits := keepsReturns_afterDigits? isDigitClass_isDigit
    match cs with
    | [] => cases found
    | [_] => cases found
    | mark :: sign :: rest =>
        rw [afterExponent?] at found
        split at found
        · cases found
        · split at found
          · exact (digits.suffix found).trans ((List.suffix_cons sign rest).trans
              (List.suffix_cons mark _))
          · exact (digits.suffix found).trans (List.suffix_cons mark _)
  returns cs := by
    have digits := (keepsReturns_afterDigits? isDigitClass_isDigit).returns
    match cs with
    | [] => rfl
    | [mark] =>
        by_cases isFeed : mark = '\n'
        · rw [isFeed, withReturns_lineFeed, afterExponent?, if_pos (by simp [isClass.returns])]
          rfl
        · rw [withReturns_cons isFeed]
          rfl
    | mark :: sign :: rest =>
        by_cases isFeed : mark = '\n'
        · rw [isFeed, withReturns_lineFeed, afterExponent?, if_pos (by simp [isClass.returns]),
            afterExponent?, if_pos (by simp [isClass.lineFeed])]
          rfl
        · rw [withReturns_cons isFeed]
          by_cases signIsFeed : sign = '\n'
          · have noSign : ¬ ('\r' = '+' ∨ '\r' = '-') ∧ ¬ ('\n' = '+' ∨ '\n' = '-') := by decide
            rw [signIsFeed, withReturns_lineFeed, afterExponent?, afterExponent?, if_neg noSign.1,
              if_neg noSign.2, ← withReturns_lineFeed, digits]
            split <;> rfl
          · rw [withReturns_cons signIsFeed, afterExponent?, afterExponent?,
              ← withReturns_cons signIsFeed, digits, digits]
            split
            · rfl
            · split <;> rfl

/-! ## Numbers -/

private theorem suffix_afterMantissas (member : after ∈ afterMantissas isDigit cs) :
    after <:+ cs.tail := by
  unfold afterMantissas at member
  split at member
  · rename_i rest
    exact (suffix_afterDigits? (Option.mem_toList.mp member)).trans (List.tail_suffix rest)
  · split at member
    · rename_i rest found
      have isEnd := suffix_afterDigits? found
      have isBehind := (List.suffix_cons '.' rest).trans isEnd
      simp only [List.mem_cons, Option.mem_toList] at member
      rcases member with rfl | rfl | more
      · exact isEnd
      · exact isBehind
      · exact (suffix_afterDigits? more).trans ((List.tail_suffix rest).trans isBehind)
    · exact suffix_afterDigits? (Option.mem_toList.mp member)

private theorem afterMantissas_withReturns (isClass : IsDigitClass isDigit) (cs : List Char) :
    afterMantissas isDigit (withReturns cs) = (afterMantissas isDigit cs).map withReturns := by
  have digits := (keepsReturns_afterDigits? isClass).returns
  have toList (found : Option (List Char)) :
      (found.map withReturns).toList = found.toList.map withReturns := by
    cases found <;> rfl
  have ofPoint (cs : List Char) (isPoint : ∀ rest, cs ≠ '.' :: rest) :
      ∀ rest, withReturns cs ≠ '.' :: rest := by
    intro rest same
    obtain ⟨others, rfl, -⟩ := exists_of_withReturns_eq_cons (by decide) same
    exact isPoint others rfl
  by_cases isPoint : ∃ rest, cs = '.' :: rest
  · obtain ⟨rest, rfl⟩ := isPoint
    rw [withReturns_cons (by decide), afterMantissas, afterMantissas, digits, toList]
  · rw [not_exists] at isPoint
    rw [afterMantissas.eq_2 _ _ (ofPoint cs isPoint), afterMantissas.eq_2 _ _ isPoint, digits]
    cases found : afterDigits? isDigit cs with
    | none => rfl
    | some left =>
        by_cases isPoint : ∃ rest, left = '.' :: rest
        · obtain ⟨rest, rfl⟩ := isPoint
          rw [Option.map_some, withReturns_cons (by decide)]
          simp only [digits, toList, List.map_cons, withReturns_cons (c := '.') (by decide)]
        · rw [not_exists] at isPoint
          split
          · rename_i rest same
            exact absurd (Option.some.inj same) (ofPoint left isPoint rest)
          · split
            · rename_i rest same
              exact absurd (Option.some.inj same) (isPoint rest)
            · rfl

/-- What follows the digits of a base that one of two letters stands for. -/
def afterBase? (isDigit : Char → Bool) (lower upper : Char) : List Char → Option (List Char)
  | mark :: digits =>
      if mark = lower ∨ mark = upper then afterDigits? isDigit (skipUnderscore digits) else none
  | [] => none

private theorem keepsReturns_afterBase? (isClass : IsDigitClass isDigit) {lower upper : Char}
    (plain : '\n' ≠ lower ∧ '\n' ≠ upper ∧ '\r' ≠ lower ∧ '\r' ≠ upper) :
    KeepsReturns (afterBase? isDigit lower upper) where
  suffix {cs after} found := by
    cases cs with
    | nil => cases found
    | cons mark digits =>
        rw [afterBase?] at found
        split at found
        · exact ((keepsReturns_afterDigits? isClass).comp_skipUnderscore.suffix found).trans
            (List.suffix_cons mark digits)
        · cases found
  returns cs := by
    obtain ⟨noLower, noUpper, returnNoLower, returnNoUpper⟩ := plain
    cases cs with
    | nil => rfl
    | cons mark digits =>
        by_cases isFeed : mark = '\n'
        · rw [isFeed, withReturns_lineFeed, afterBase?, afterBase?,
            if_neg (not_or.mpr ⟨returnNoLower, returnNoUpper⟩),
            if_neg (not_or.mpr ⟨noLower, noUpper⟩)]
          rfl
        · rw [withReturns_cons isFeed, afterBase?, afterBase?,
            (keepsReturns_afterDigits? isClass).comp_skipUnderscore.returns]
          split <;> rfl

/-- What may follow the digit zero of a whole number. -/
def afterZero : List (List Char → Option (List Char)) :=
  [ some, fun rest => afterDigits? isOctal (skipUnderscore rest), afterBase? isOctal 'o' 'O',
    afterBase? isBinary 'b' 'B', afterBase? isHexadecimal 'x' 'X' ]

private theorem afterWholes_zero (rest : List Char) :
    afterWholes ('0' :: rest) = afterZero.map fun read => read rest := rfl

private theorem keepsReturns_of_mem_afterZero : ∀ read ∈ afterZero, KeepsReturns read := by
  simp only [afterZero, List.forall_mem_cons]
  exact ⟨keepsReturns_some, (keepsReturns_afterDigits? isDigitClass_isOctal).comp_skipUnderscore,
    keepsReturns_afterBase? isDigitClass_isOctal (by decide),
    keepsReturns_afterBase? isDigitClass_isBinary (by decide),
    keepsReturns_afterBase? isDigitClass_isHexadecimal (by decide), List.forall_mem_nil _⟩

private theorem afterWholes_cons (noZero : c ≠ '0') (rest : List Char) :
    afterWholes (c :: rest) =
      if c.isDigit then [some (afterMoreDigits Char.isDigit rest)] else [] :=
  afterWholes.eq_2 _ _ noZero

private theorem keepReturns_afterWholes : KeepReturns afterWholes where
  suffix {cs after} member := by
    cases cs with
    | nil => cases member
    | cons c rest =>
        by_cases isZero : c = '0'
        · rw [isZero, afterWholes_zero, List.mem_map] at member
          obtain ⟨read, isReader, found⟩ := member
          exact (keepsReturns_of_mem_afterZero read isReader).suffix found
        · rw [afterWholes_cons isZero] at member
          split at member
          · cases List.mem_singleton.mp member
            exact suffix_afterMoreDigits Char.isDigit rest
          · cases member
  returns cs := by
    cases cs with
    | nil => rfl
    | cons c rest =>
        by_cases isZero : c = '0'
        · rw [isZero, withReturns_cons (by decide), afterWholes_zero, afterWholes_zero,
            List.map_map]
          exact List.map_congr_left fun read isReader =>
            (keepsReturns_of_mem_afterZero read isReader).returns rest
        · by_cases isFeed : c = '\n'
          · rw [isFeed]
            rfl
          · rw [withReturns_cons isFeed, afterWholes_cons isZero, afterWholes_cons isZero,
              afterMoreDigits_withReturns isDigitClass_isDigit]
            split <;> rfl

private theorem keepReturns_afterDecimalFloats : KeepReturns afterDecimalFloats where
  suffix {cs after} member := by
    rw [afterDecimalFloats, List.mem_append, List.mem_map, List.mem_map] at member
    rcases member with ⟨rest, inMantissas, isRest⟩ | ⟨rest, inMantissas, found⟩
    · cases isRest
      exact suffix_afterMantissas (List.mem_filter.mp inMantissas).1
    · exact ((keepsReturns_afterExponent? isMarkClass_isDecimalMark).suffix found).trans
        (suffix_afterMantissas inMantissas)
  returns cs := by
    have sameTest : ((fun rest => some rest != afterDigits? Char.isDigit (withReturns cs)) ∘
        withReturns) = fun rest => some rest != afterDigits? Char.isDigit cs := by
      funext rest
      rw [Function.comp_apply, (keepsReturns_afterDigits? isDigitClass_isDigit).returns,
        ← Option.map_some, Bool.eq_iff_iff, bne_iff_ne, bne_iff_ne,
        (Option.map_injective withReturns_injective).ne_iff]
    rw [afterDecimalFloats, afterDecimalFloats, afterMantissas_withReturns isDigitClass_isDigit,
      List.filter_map, sameTest, List.map_append, List.map_map, List.map_map, List.map_map,
      List.map_map]
    refine congrArg _ (List.map_congr_left fun rest _ => ?_)
    exact (keepsReturns_afterExponent? isMarkClass_isDecimalMark).returns rest

private theorem keepReturns_afterHexadecimalFloats : KeepReturns afterHexadecimalFloats where
  suffix {cs after} member := by
    unfold afterHexadecimalFloats at member
    split at member
    · split at member
      · rename_i mark rest isHexadecimal
        obtain ⟨left, inMantissas, found⟩ := List.mem_map.mp member
        refine ((keepsReturns_afterExponent? isMarkClass_isHexadecimalMark).suffix found).trans ?_
        exact (suffix_afterMantissas inMantissas).trans ((List.tail_suffix _).trans
          ((suffix_skipUnderscore rest).trans (List.suffix_cons mark rest)))
      · cases member
    · cases member
  returns cs := by
    have exponent := (keepsReturns_afterExponent? isMarkClass_isHexadecimalMark).returns
    match cs with
    | [] => rfl
    | [c] =>
      by_cases isFeed : c = '\n'
      · rw [isFeed]
        rfl
      · have none : afterHexadecimalFloats [c] = [] :=
          afterHexadecimalFloats.eq_2 _ (by rintro _ _ ⟨⟩)
        rw [withReturns_of_not_mem (by simpa using Ne.symm isFeed), none]
        rfl
    | c :: mark :: rest =>
      by_cases isZero : c = '0'
      · rw [isZero, withReturns_cons (by decide)]
        by_cases isFeed : mark = '\n'
        · rw [isFeed]
          rfl
        · rw [withReturns_cons isFeed, afterHexadecimalFloats, afterHexadecimalFloats,
            skipUnderscore_withReturns, afterMantissas_withReturns isDigitClass_isHexadecimal]
          split
          · rw [List.map_map, List.map_map]
            exact List.map_congr_left fun left _ => exponent left
          · rfl
      · have none (others : List Char) : afterHexadecimalFloats (c :: others) = [] :=
          afterHexadecimalFloats.eq_2 _ fun _ _ same => isZero (List.cons_eq_cons.mp same).1
        by_cases isFeed : c = '\n'
        · rw [isFeed]
          rfl
        · rw [withReturns_cons isFeed, none, none]
          rfl

/-- Of two rests of one text, the shorter one is so with and without returns. -/
theorem length_withReturns_lt_iff (firstIsEnd : first <:+ cs) (secondIsEnd : second <:+ cs) :
    (withReturns first).length < (withReturns second).length ↔ first.length < second.length := by
  rw [length_withReturns, length_withReturns]
  rcases List.suffix_or_suffix_of_suffix firstIsEnd secondIsEnd with isEnd | isEnd
  · have fewer := isEnd.sublist.count_le '\n'
    have shorter := isEnd.length_le
    by_cases same : first.length = second.length
    · rw [isEnd.eq_of_length same]
      simp
    · omega
  · have fewer := isEnd.sublist.count_le '\n'
    have shorter := isEnd.length_le
    omega

private theorem mem_of_shortest {rests : List (Option (List Char))}
    (found : shortest rests = some after) : some after ∈ rests := by
  induction rests generalizing after with
  | nil => cases found
  | cons rest others inductionHypothesis =>
      cases rest with
      | none => exact List.mem_cons_of_mem _ (inductionHypothesis found)
      | some left =>
          rw [shortest] at found
          split at found
          · cases found
            exact List.mem_cons_self
          · rename_i other isOther
            split at found
            · cases found
              exact List.mem_cons_of_mem _ (inductionHypothesis isOther)
            · cases found
              exact List.mem_cons_self

private theorem shortest_withReturns {rests : List (Option (List Char))}
    (areEnds : ∀ {rest : List Char}, some rest ∈ rests → rest <:+ cs) :
    shortest (rests.map (Option.map withReturns)) = (shortest rests).map withReturns := by
  induction rests with
  | nil => rfl
  | cons rest others inductionHypothesis =>
      have othersAreEnds {rest : List Char} (member : some rest ∈ others) : rest <:+ cs :=
        areEnds (List.mem_cons_of_mem _ member)
      have same := inductionHypothesis othersAreEnds
      cases rest with
      | none => exact same
      | some left =>
          rw [List.map_cons, Option.map_some, shortest, shortest, same]
          cases found : shortest others with
          | none => rfl
          | some other =>
              have sameOrder := length_withReturns_lt_iff (othersAreEnds (mem_of_shortest found))
                (areEnds List.mem_cons_self)
              simp only [Option.map_some, sameOrder]
              split <;> rfl

def afterClosing? (mark : Char) (found : Option (List Char)) : Option (List Char) :=
  match found with
  | some (c :: rest) => if c = mark then some rest else none
  | _ => none

/-- This is the only reader that takes the mark and fails without it. -/
theorem eq_afterClosing? {mark : Char} {found closed : Option (List Char)}
    (marked : ∀ rest, found = some (mark :: rest) → closed = some rest)
    (unmarked : (∀ rest, found ≠ some (mark :: rest)) → closed = none) :
    closed = afterClosing? mark found := by
  unfold afterClosing?
  split
  · split
    · rename_i isMark
      exact marked _ (by rw [isMark])
    · rename_i noMark
      exact unmarked fun rest same => noMark (List.cons_eq_cons.mp (Option.some.inj same)).1
  · rename_i noCons
    exact unmarked fun rest => noCons mark rest

private theorem suffix_afterClosing? {mark : Char} {found : Option (List Char)}
    (closed : afterClosing? mark found = some after) :
    ∃ rest, found = some rest ∧ after <:+ rest := by
  unfold afterClosing? at closed
  split at closed
  · split at closed
    · cases closed
      exact ⟨_, rfl, List.suffix_cons _ _⟩
    · cases closed
  · cases closed

private theorem afterClosing?_withReturns {mark : Char} (plain : '\n' ≠ mark ∧ '\r' ≠ mark)
    (found : Option (List Char)) :
    afterClosing? mark (found.map withReturns) = (afterClosing? mark found).map withReturns := by
  match found with
  | none => rfl
  | some [] => rfl
  | some (c :: rest) =>
      rw [Option.map_some]
      by_cases isFeed : c = '\n'
      · rw [isFeed, withReturns_lineFeed, afterClosing?, afterClosing?, if_neg plain.1,
          if_neg plain.2]
        rfl
      · rw [withReturns_cons isFeed, afterClosing?, afterClosing?]
        split <;> rfl

theorem KeepsReturns.afterClosing? (keeps : KeepsReturns read) (mark : Char)
    (plain : '\n' ≠ mark ∧ '\r' ≠ mark) :
    KeepsReturns fun cs => Literal.afterClosing? mark (read cs) where
  suffix closed := by
    obtain ⟨rest, found, isEnd⟩ := suffix_afterClosing? closed
    exact isEnd.trans (keeps.suffix found)
  returns cs := by rw [keeps.returns, afterClosing?_withReturns plain]

namespace KeepReturns

variable {reads more : List Char → List (Option (List Char))}

private theorem cons_afterDigits? (isClass : IsDigitClass isDigit) (keep : KeepReturns reads) :
    KeepReturns fun cs => afterDigits? isDigit cs :: reads cs where
  suffix member := by
    rcases List.mem_cons.mp member with isFirst | isLater
    · exact suffix_afterDigits? isFirst.symm
    · exact keep.suffix isLater
  returns cs := by rw [(keepsReturns_afterDigits? isClass).returns, keep.returns, List.map_cons]

theorem append (keep : KeepReturns reads) (others : KeepReturns more) :
    KeepReturns fun cs => reads cs ++ more cs where
  suffix member := (List.mem_append.mp member).elim keep.suffix others.suffix
  returns cs := by rw [keep.returns, others.returns, List.map_append]

theorem closing (keep : KeepReturns reads) (mark : Char) (plain : '\n' ≠ mark ∧ '\r' ≠ mark) :
    KeepReturns fun cs => (reads cs).map (afterClosing? mark) where
  suffix member := by
    obtain ⟨found, isRead, closed⟩ := List.mem_map.mp member
    obtain ⟨rest, rfl, isEnd⟩ := suffix_afterClosing? closed
    exact isEnd.trans (keep.suffix isRead)
  returns cs := by
    rw [keep.returns, List.map_map, List.map_map]
    exact List.map_congr_left fun found _ => afterClosing?_withReturns plain found

end KeepReturns

private theorem exists_isNumber :
    ∃ reads : List Char → List (Option (List Char)), KeepReturns reads ∧
      afterNumber? = fun cs => shortest (reads cs) := by
  have reals := (keepReturns_afterWholes.append keepReturns_afterDecimalFloats).append
    keepReturns_afterHexadecimalFloats
  have imaginary := (reals.cons_afterDigits? isDigitClass_isDigit).closing 'i' (by decide)
  refine ⟨_, reals.append imaginary, ?_⟩
  funext cs
  rw [afterNumber?]
  refine congrArg shortest (congrArg _ (List.map_congr_left fun found _ => ?_))
  refine eq_afterClosing? (fun rest isMarked => ?_) fun noMark => ?_
  · simp only [isMarked]
  · split
    · exact absurd rfl (noMark _)
    · rfl

theorem suffix_afterNumber? (found : afterNumber? cs = some after) : after <:+ cs.tail := by
  obtain ⟨reads, keep, isNumber⟩ := exists_isNumber
  rw [isNumber] at found
  exact keep.suffix (mem_of_shortest found)

theorem afterNumber?_withReturns (cs : List Char) :
    afterNumber? (withReturns cs) = (afterNumber? cs).map withReturns := by
  obtain ⟨reads, keep, isNumber⟩ := exists_isNumber
  rw [isNumber]
  dsimp only
  rw [keep.returns, shortest_withReturns keep.suffix]

end AddonBindings.Go.Literal
