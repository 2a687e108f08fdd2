import AddonBindings.Proofs.Console.Escaping
import AddonBindings.Proofs.Console.Marks
import Mathlib.Data.List.Basic

/-!
Contract: what is shown of an escaped text.

Owns:
- the parts of a text that markup reads on their own once the text is escaped;
- the text that is shown for any text, and when it is the text itself;
- the line of any message.

Does not own: which messages there are.
-/

namespace AddonBindings.Console

/-! ## Parts of a text -/

/-- A tag that is text, with the backslashes in front of it. -/
def keptTag (count : Nat) (content : List Char) : List Piece :=
  let slashes := if count = 0 then [] else [Piece.kept (List.replicate count '\\')]
  slashes ++ [.kept ('[' :: (content ++ [']']))]

/-- The pieces of a text of which no tag is meant as one. -/
def literalPieces : List Char → List Piece
  | [] => []
  | c :: rest =>
      match found : escapedTag? (c :: rest) with
      | some (count, content, after) =>
          have : after.length < rest.length + 1 := length_of_escapedTag? found
          keptTag count content ++ literalPieces after
      | none => addCharacter c (literalPieces rest)
termination_by cs => cs.length
decreasing_by all_goals (simp only [List.length_cons]; omega)

/-- The parts of a text: its tags, the backslashes in front of a tag, and what stands
between these. -/
def parts (cs : List Char) : List (List Char) :=
  (literalPieces cs).map Piece.characters

private theorem literalPieces_nil : literalPieces [] = [] := by
  rw [literalPieces]

private theorem literalPieces_of_none {c : Char} {rest : List Char}
    (unfound : escapedTag? (c :: rest) = none) :
    literalPieces (c :: rest) = addCharacter c (literalPieces rest) := by
  rw [literalPieces]
  split
  next same => rw [unfound] at same; cases same
  next => rfl

private theorem literalPieces_of_some {cs content after : List Char} {count : Nat}
    (found : escapedTag? cs = some (count, content, after)) :
    literalPieces cs = keptTag count content ++ literalPieces after := by
  cases cs with
  | nil => cases found
  | cons c rest =>
      rw [literalPieces]
      split
      next same =>
        rw [found] at same
        obtain ⟨rfl, rfl, rfl⟩ : _ = _ ∧ _ = _ ∧ _ = _ := by simpa using same
        rfl
      next same => rw [found] at same; cases same

private theorem flatten_characters_addCharacter (c : Char) (pieces : List Piece) :
    ((addCharacter c pieces).map Piece.characters).flatten =
      c :: (pieces.map Piece.characters).flatten := by
  unfold addCharacter
  split <;> rfl

private theorem flatten_characters_keptTag (count : Nat) (content : List Char) :
    ((keptTag count content).map Piece.characters).flatten =
      List.replicate count '\\' ++ '[' :: (content ++ [']']) := by
  unfold keptTag
  by_cases bare : count = 0
  · simp [Piece.characters, bare]
  · simp [Piece.characters, bare]

/-- The parts are all of the text. -/
theorem flatten_parts (cs : List Char) : (parts cs).flatten = cs := by
  unfold parts
  induction cs using literalPieces.induct with
  | case1 => rw [literalPieces_nil, List.map_nil, List.flatten_nil]
  | case2 c rest count content after found shorter inductionHypothesis =>
      rw [literalPieces_of_some found, List.map_append, List.flatten_append,
        flatten_characters_keptTag, inductionHypothesis, (escapedTag?_eq_some_iff.mp found).2]
      simp
  | case3 c rest unfound inductionHypothesis =>
      rw [literalPieces_of_none unfound, flatten_characters_addCharacter, inductionHypothesis]

/-! ## Parts of an escaped text -/

/-- Escaping doubles the backslashes, and one more keeps the tag. -/
theorem tagPieces_escaped (position count : Nat) (content : List Char) :
    tagPieces position (2 * count + 1) content = keptTag count content := by
  have odd : (2 * count + 1) % 2 = 1 := by omega
  have halved : (2 * count + 1) / 2 = count := by omega
  simp only [tagPieces, keptTag, odd, halved, if_true]

/-- Markup reads an escaped text by the parts of the text. -/
theorem piecesFrom_escapeTags (position : Nat) (cs : List Char) :
    piecesFrom position (escapeTags cs) = literalPieces cs := by
  induction cs using escapeTags.induct generalizing position with
  | case1 => rw [escapeTags, piecesFrom, literalPieces_nil]
  | case2 c rest count content after found shorter inductionHypothesis =>
      have front := escapedTag?_escapeTags_append found []
      rw [List.append_nil, List.append_nil] at front
      rw [piecesFrom_of_some front, tagPieces_escaped, inductionHypothesis,
        literalPieces_of_some found]
  | case3 c rest unfound inductionHypothesis =>
      have noTag : escapedTag? (escapeTags (c :: rest) ++ []) = none := by
        rw [Option.eq_none_iff_forall_ne_some]
        rintro ⟨count, content, after⟩ found
        obtain ⟨number, later, tag⟩ := exists_escapedTag?_of_escapeTags (by simp) found
        rw [unfound] at tag
        cases tag
      rw [List.append_nil, escapeTags_of_none unfound] at noTag
      rw [escapeTags_of_none unfound, piecesFrom_of_none noTag, inductionHypothesis,
        literalPieces_of_none unfound]

def literalText (cs : List Char) : List Char :=
  (parts cs).flatMap plainText

private theorem shownPieces_escapeTags (position : Nat) (cs : List Char) :
    shownPieces [] (piecesFrom position (escapeTags cs)) = .ok (literalText cs) := by
  have untagged := @isUntagged_piecesFrom_escapeTags cs [] (by simp) position
  rw [List.append_nil] at untagged
  rw [shownPieces_of_isUntagged untagged, piecesFrom_escapeTags, literalText, parts]

/-! ## Texts that are shown as they are -/

private theorem marks_flatMap_plainText_le (texts : List (List Char)) :
    marks (texts.flatMap plainText) ≤ marks texts.flatten := by
  induction texts with
  | nil => exact Nat.le_refl 0
  | cons text rest inductionHypothesis =>
      rw [List.flatMap_cons, List.flatten_cons, marks_append, marks_append]
      exact Nat.add_le_add (marks_plainText_le text) inductionHypothesis

/-- Texts without marks lost are literal, each of them. -/
theorem isLiteral_of_marks_flatten_le {texts : List (List Char)}
    (full : marks texts.flatten ≤ marks (texts.flatMap plainText)) :
    ∀ text ∈ texts, IsLiteral text := by
  induction texts with
  | nil => simp
  | cons text rest inductionHypothesis =>
      have here := marks_plainText_le text
      have later := marks_flatMap_plainText_le rest
      rw [List.flatMap_cons, List.flatten_cons, marks_append, marks_append] at full
      exact List.forall_mem_cons.mpr
        ⟨isLiteral_of_marks_le (by omega), inductionHypothesis (by omega)⟩

private theorem literalText_eq_self_iff {cs : List Char} :
    literalText cs = cs ↔ ∀ part ∈ parts cs, IsLiteral part := by
  constructor
  · intro same
    apply isLiteral_of_marks_flatten_le
    rw [flatten_parts, ← literalText, same]
  · intro literal
    have shown : (parts cs).map plainText = (parts cs).map id :=
      List.map_congr_left fun part member => (literal part member).plainText_eq
    rw [literalText, List.flatMap, shown, List.map_id, flatten_parts]

private theorem mem_literalText {cs : List Char} {c : Char} (member : c ∈ literalText cs) :
    c ∈ cs ∨ isInLine c = true := by
  obtain ⟨part, isPart, inPart⟩ := List.mem_flatMap.mp member
  refine (mem_plainText inPart).imp_left fun inText => ?_
  rw [← flatten_parts cs]
  exact List.mem_flatten_of_mem isPart inText

/-! ## A backslash at the end -/

private theorem escapedTag?_append_backslash {cs content after : List Char} {count : Nat}
    (found : escapedTag? cs = some (count, content, after)) :
    escapedTag? (cs ++ ['\\']) = some (count, content, after ++ ['\\']) := by
  obtain ⟨isContent, rfl⟩ := escapedTag?_eq_some_iff.mp found
  exact escapedTag?_eq_some_iff.mpr ⟨isContent, by simp⟩

/-- A backslash at the end closes no tag. -/
theorem escapedTag?_append_backslash_eq_none {cs : List Char} (unfound : escapedTag? cs = none) :
    escapedTag? (cs ++ ['\\']) = none := by
  rw [Option.eq_none_iff_forall_ne_some]
  rintro ⟨count, content, after⟩ found
  obtain ⟨isContent, same⟩ := escapedTag?_eq_some_iff.mp found
  rcases List.eq_nil_or_concat' after with rfl | ⟨front, last, rfl⟩
  · have whole : List.replicate count '\\' ++ '[' :: (content ++ [']']) =
        (List.replicate count '\\' ++ '[' :: content) ++ [']'] := by simp
    rw [whole] at same
    cases (List.append_inj' same rfl).2
  · have whole : List.replicate count '\\' ++ '[' :: (content ++ ']' :: (front ++ [last])) =
        (List.replicate count '\\' ++ '[' :: (content ++ ']' :: front)) ++ [last] := by simp
    rw [whole] at same
    have tag := escapedTag?_eq_some_iff.mpr ⟨isContent, (List.append_inj' same rfl).1⟩
    rw [unfound] at tag
    cases tag

private theorem escapeTags_append_backslash (cs : List Char) :
    escapeTags (cs ++ ['\\']) = escapeTags cs ++ ['\\'] := by
  induction cs using escapeTags.induct with
  | case1 =>
      have alone : escapedTag? ['\\'] = none := @escapedTag?_append_backslash_eq_none [] rfl
      rw [List.nil_append, escapeTags_of_none alone, escapeTags, List.nil_append]
  | case2 c rest count content after found shorter inductionHypothesis =>
      have longer := escapedTag?_append_backslash found
      rw [List.cons_append] at longer ⊢
      rw [escapeTags_of_some found, escapeTags_of_some longer, inductionHypothesis]
      simp
  | case3 c rest unfound inductionHypothesis =>
      have longer := escapedTag?_append_backslash_eq_none unfound
      rw [List.cons_append] at longer ⊢
      rw [escapeTags_of_none unfound, escapeTags_of_none longer, inductionHypothesis,
        List.cons_append]

private theorem getLast?_escapeTags (cs : List Char) : (escapeTags cs).getLast? = cs.getLast? := by
  induction cs using escapeTags.induct with
  | case1 => rw [escapeTags]
  | case2 c rest count content after found shorter inductionHypothesis =>
      rw [escapeTags_of_some found, (escapedTag?_eq_some_iff.mp found).2]
      simp [List.getLast?_append, List.getLast?_cons, inductionHypothesis]
  | case3 c rest unfound inductionHypothesis =>
      rw [escapeTags_of_none unfound, List.getLast?_cons, List.getLast?_cons, inductionHypothesis]

private theorem endsInLoneBackslash_append_backslash {front : List Char} :
    endsInLoneBackslash (front ++ ['\\']) = true ↔ front.getLast? ≠ some '\\' := by
  rcases List.eq_nil_or_concat' front with rfl | ⟨others, last, rfl⟩
  · decide
  · by_cases doubled : last = '\\'
    · simp [endsInLoneBackslash, doubled]
    · simp [endsInLoneBackslash, doubled]

private theorem endsInLoneBackslash_eq_false {cs : List Char} (other : cs.getLast? ≠ some '\\') :
    endsInLoneBackslash cs = false := by
  rcases List.eq_nil_or_concat' cs with rfl | ⟨front, last, rfl⟩
  · rfl
  · have differs : last ≠ '\\' := by simpa using other
    simp [endsInLoneBackslash, differs]

private theorem exists_eq_of_endsInLoneBackslash {cs : List Char}
    (lone : endsInLoneBackslash cs = true) :
    ∃ front, cs = front ++ ['\\'] := by
  have slashed : cs.getLast? = some '\\' := by
    by_contra other
    rw [endsInLoneBackslash_eq_false other] at lone
    cases lone
  exact List.getLast?_eq_some_iff.mp slashed

/-- Escaping leaves the backslashes at the end as they are. -/
theorem endsInLoneBackslash_escapeTags (cs : List Char) :
    endsInLoneBackslash (escapeTags cs) = endsInLoneBackslash cs := by
  by_cases slashed : cs.getLast? = some '\\'
  · obtain ⟨front, rfl⟩ := List.getLast?_eq_some_iff.mp slashed
    rw [escapeTags_append_backslash, Bool.eq_iff_iff, endsInLoneBackslash_append_backslash,
      endsInLoneBackslash_append_backslash, getLast?_escapeTags]
  · rw [endsInLoneBackslash_eq_false slashed,
      endsInLoneBackslash_eq_false (by rwa [getLast?_escapeTags])]

/-- A backslash behind the last text among pieces. -/
def withBackslash : List Piece → List Piece
  | [] => [.text ['\\']]
  | [.text characters] => [.text (characters ++ ['\\'])]
  | piece :: rest => piece :: withBackslash rest

private theorem withBackslash_addCharacter (c : Char) (pieces : List Piece) :
    withBackslash (addCharacter c pieces) = addCharacter c (withBackslash pieces) := by
  match pieces with
  | [] => rfl
  | [.text characters] => rfl
  | .text characters :: second :: rest => rfl
  | .kept characters :: rest => rfl
  | .tag content position :: rest => rfl

private theorem withBackslash_keptTag (count : Nat) (content : List Char) (rest : List Piece) :
    withBackslash (keptTag count content ++ rest) =
      keptTag count content ++ withBackslash rest := by
  unfold keptTag
  split <;> rfl

private theorem literalPieces_append_backslash (cs : List Char) :
    literalPieces (cs ++ ['\\']) = withBackslash (literalPieces cs) := by
  induction cs using literalPieces.induct with
  | case1 =>
      have alone : escapedTag? ['\\'] = none := @escapedTag?_append_backslash_eq_none [] rfl
      rw [List.nil_append, literalPieces_of_none alone, literalPieces_nil]
      rfl
  | case2 c rest count content after found shorter inductionHypothesis =>
      rw [literalPieces_of_some (escapedTag?_append_backslash found), literalPieces_of_some found,
        inductionHypothesis, withBackslash_keptTag]
  | case3 c rest unfound inductionHypothesis =>
      have longer := escapedTag?_append_backslash_eq_none unfound
      rw [List.cons_append] at longer ⊢
      rw [literalPieces_of_none longer, literalPieces_of_none unfound, inductionHypothesis,
        withBackslash_addCharacter]

private theorem unescapeBrackets_append_backslash (cs : List Char) :
    unescapeBrackets (cs ++ ['\\']) = unescapeBrackets cs ++ ['\\'] := by
  induction cs using unescapeBrackets.induct with
  | case1 rest inductionHypothesis =>
      simp only [List.cons_append, unescapeBrackets, inductionHypothesis]
  | case2 c rest other inductionHypothesis =>
      have stillOther (later : List Char) (slash : c = '\\')
          (bracket : rest ++ ['\\'] = '[' :: later) : False := by
        cases rest with
        | nil => cases bracket
        | cons second others => exact other others slash (by rw [(List.cons.inj bracket).1])
      rw [List.cons_append, unescapeBrackets, unescapeBrackets, inductionHypothesis, List.cons_append]
      · exact other
      · exact stillOther
  | case3 => rfl

private theorem untilColon?_append_backslash (cs : List Char) :
    untilColon? (cs ++ ['\\']) =
      (untilColon? cs).map fun (name, after) => (name, after ++ ['\\']) := by
  induction cs with
  | nil => decide
  | cons c rest inductionHypothesis =>
      rw [List.cons_append, untilColon?, untilColon?, inductionHypothesis]
      split
      · rfl
      · split
        · rfl
        · cases untilColon? rest <;> rfl

private theorem replaceEmoji_append_backslash (cs : List Char) :
    replaceEmoji (cs ++ ['\\']) = replaceEmoji cs ++ ['\\'] := by
  induction cs using replaceEmoji.induct with
  | case1 => simp [replaceEmoji]
  | case2 rest noColon inductionHypothesis =>
      have longer : untilColon? (rest ++ ['\\']) = none := by
        rw [untilColon?_append_backslash, noColon, Option.map_none]
      rw [List.cons_append, (replaceEmoji_of_none longer).1, (replaceEmoji_of_none noColon).1,
        inductionHypothesis, List.cons_append]
  | case3 rest name after found shorter inductionHypothesis =>
      have longer : untilColon? (rest ++ ['\\']) = some (name, after ++ ['\\']) := by
        rw [untilColon?_append_backslash, found, Option.map_some]
      rw [List.cons_append, (replaceEmoji_of_some longer).1, (replaceEmoji_of_some found).1,
        inductionHypothesis, List.append_assoc]
  | case4 c rest notColon inductionHypothesis =>
      rw [List.cons_append, replaceEmoji_cons notColon, replaceEmoji_cons notColon,
        inductionHypothesis, List.cons_append]

private theorem plainText_append_backslash (cs : List Char) :
    plainText (cs ++ ['\\']) = plainText cs ++ ['\\'] := by
  rw [plainText, unescapeBrackets_append_backslash, replaceEmoji_append_backslash, plainText]

/-- A backslash behind a text is shown behind it. -/
theorem literalText_append_backslash (cs : List Char) :
    literalText (cs ++ ['\\']) = literalText cs ++ ['\\'] := by
  rw [literalText, literalText, parts, parts, literalPieces_append_backslash]
  induction literalPieces cs using withBackslash.induct with
  | case1 => simp [withBackslash, Piece.characters, plainText, unescapeBrackets, replaceEmoji]
  | case2 characters =>
      simp [withBackslash, Piece.characters, plainText_append_backslash]
  | case3 piece rest other inductionHypothesis =>
      rw [withBackslash, List.map_cons, List.map_cons, List.flatMap_cons, List.flatMap_cons,
        inductionHypothesis, List.append_assoc]
      exact other

/-! ## Escaped texts -/

/-- What markup shows behind an escaped text: a lone backslash at the end once more. -/
def afterEnd (cs : List Char) : List Char :=
  if endsInLoneBackslash cs then ['\\'] else []

private theorem shownPieces_escape (position : Nat) (cs : List Char) :
    shownPieces [] (piecesFrom position (escape cs)) = .ok (literalText cs ++ afterEnd cs) := by
  simp only [escape, afterEnd, endsInLoneBackslash_escapeTags]
  split
  · rw [← escapeTags_append_backslash, shownPieces_escapeTags, literalText_append_backslash]
  · rw [shownPieces_escapeTags, List.append_nil]

private theorem literalText_append_afterEnd_eq_self_iff {cs : List Char} :
    literalText cs ++ afterEnd cs = cs ↔
      (∀ part ∈ parts cs, IsLiteral part) ∧ endsInLoneBackslash cs = false := by
  cases lone : endsInLoneBackslash cs with
  | false => simp [afterEnd, lone, literalText_eq_self_iff]
  | true =>
      obtain ⟨front, rfl⟩ := exists_eq_of_endsInLoneBackslash lone
      rw [afterEnd, lone, if_pos rfl, literalText_append_backslash]
      refine ⟨fun same => ?_, fun ⟨_, unslashed⟩ => absurd unslashed (by decide)⟩
      -- then the text in front of the last backslash ends in one as well
      have shown := (List.append_inj' same rfl).1
      have doubled : front.getLast? = some '\\' := by rw [← shown, List.getLast?_concat]
      exact absurd doubled (endsInLoneBackslash_append_backslash.mp lone)

/-! ## Lines of messages -/

/-- What is printed in front of the text of a message. -/
def levelFront : Level → String
  | .info => "  "
  | .success => "  v "
  | .warning => "  ! "
  | .error => "  x "

/-- What is shown of the text of a message: without markup the emoji codes are replaced, and
with markup also what an escaped text loses and gains. -/
def shownText : Level → List Char → List Char
  | .info, cs => replaceEmoji cs
  | .success, cs | .warning, cs | .error, cs => literalText cs ++ afterEnd cs

/-- Nothing in the text of a message means anything on its level. -/
def IsShownAsWritten : Level → List Char → Prop
  | .info, cs => IsCodeless cs
  | .success, cs | .warning, cs | .error, cs =>
      (∀ part ∈ parts cs, IsLiteral part) ∧ endsInLoneBackslash cs = false

theorem shownText_eq_self_iff {level : Level} {cs : List Char} :
    shownText level cs = cs ↔ IsShownAsWritten level cs := by
  cases level with
  | info => exact replaceEmoji_eq_self_iff
  | success | warning | error => exact literalText_append_afterEnd_eq_self_iff

private theorem literalPieces_of_isUnmarked {c : Char} {cs : List Char}
    (unmarked : ∀ d ∈ c :: cs, isUnmarked d = true) : literalPieces (c :: cs) = [.text (c :: cs)] := by
  induction cs generalizing c with
  | nil =>
      rw [literalPieces_of_none (escapedTag?_eq_none_of_isUnmarked (unmarked c (by simp)) []),
        literalPieces_nil]
      rfl
  | cons second rest inductionHypothesis =>
      obtain ⟨here, others⟩ := List.forall_mem_cons.mp unmarked
      rw [literalPieces_of_none (escapedTag?_eq_none_of_isUnmarked here _),
        inductionHypothesis others]
      rfl

/-- Only codes mean something in a text without backslashes and opening brackets. -/
theorem isShownAsWritten_iff_of_isUnmarked {level : Level} {cs : List Char}
    (unmarked : ∀ c ∈ cs, isUnmarked c = true) : IsShownAsWritten level cs ↔ IsCodeless cs := by
  have absent (mark : Char) (marked : isUnmarked mark = false) : mark ∉ cs := by
    intro member
    rw [unmarked mark member] at marked
    cases marked
  have escaped : literalText cs ++ afterEnd cs = replaceEmoji cs := by
    have unescaped : ¬ ['\\', '['] <:+: cs :=
      fun inside => absent '[' (by decide) (inside.subset (by simp))
    have lone : endsInLoneBackslash cs = false :=
      endsInLoneBackslash_eq_false fun last => absent '\\' (by decide) (List.mem_of_getLast? last)
    have whole : literalText cs = plainText cs := by
      cases cs with
      | nil => simp [literalText, parts, literalPieces_nil, plainText, unescapeBrackets, replaceEmoji]
      | cons c rest => simp [literalText, parts, literalPieces_of_isUnmarked unmarked, Piece.characters]
    rw [whole, afterEnd, lone, plainText, unescapeBrackets_eq_self unescaped]
    exact List.append_nil _
  rw [← shownText_eq_self_iff, ← replaceEmoji_eq_self_iff]
  cases level with
  | info => exact Iff.rfl
  | success | warning | error =>
      show literalText cs ++ afterEnd cs = cs ↔ _
      rw [escaped]

/-- What is shown of a text is of the text or an emoji. -/
theorem mem_shownText {level : Level} {cs : List Char} {c : Char} (member : c ∈ shownText level cs) :
    c ∈ cs ∨ isInLine c = true := by
  have escaped (inEscaped : c ∈ literalText cs ++ afterEnd cs) : c ∈ cs ∨ isInLine c = true := by
    rcases List.mem_append.mp inEscaped with inText | atEnd
    · exact mem_literalText inText
    · refine .inl ?_
      unfold afterEnd at atEnd
      split at atEnd
      next lone =>
        obtain ⟨front, rfl⟩ := exists_eq_of_endsInLoneBackslash lone
        exact List.mem_append_right front atEnd
      next => cases atEnd
  cases level with
  | info => exact mem_replaceEmoji member
  | success | warning | error => exact escaped member

private theorem messageLine_of_ne_info {level : Level} (notInfo : level ≠ .info) (text : String) :
    messageLine ⟨level, text⟩ = markupLine ((levelSign level).toList ++ escape text.toList) := by
  cases level with
  | info => exact absurd rfl notInfo
  | success | warning | error => rfl

private theorem shownText_of_ne_info {level : Level} (notInfo : level ≠ .info) (cs : List Char) :
    shownText level cs = literalText cs ++ afterEnd cs := by
  cases level with
  | info => exact absurd rfl notInfo
  | success | warning | error => rfl

/-- A sign in a closed tag and an escaped text behind it. -/
theorem messageLine_of_sign {level : Level} (notInfo : level ≠ .info) (first : Char)
    (inside sign : List Char) (styled : isStyleTag first inside = true)
    (plain : ∀ c ∈ "  ".toList ++ sign, isPlainMarkup c = true)
    (signed : (levelSign level).toList =
      "  ".toList ++ '[' :: first :: (inside ++ ']' :: (sign ++ ("[/]".toList ++ " ".toList))))
    (front : (levelFront level).toList = "  ".toList ++ sign ++ " ".toList) (text : String) :
    messageLine ⟨level, text⟩ =
      .ok (printed ((levelFront level).toList ++ shownText level text.toList)) := by
  obtain ⟨position, shows⟩ := exists_shown_tag "  ".toList first inside sign styled plain
    (" ".toList ++ escape text.toList)
  have whole : (levelSign level).toList ++ escape text.toList = "  ".toList ++ '[' :: first ::
      (inside ++ ']' :: (sign ++ ("[/]".toList ++ (" ".toList ++ escape text.toList)))) := by
    rw [signed]
    simp
  rw [messageLine_of_ne_info notInfo, markupLine, whole, shows,
    shownPieces_piecesFrom_append (List.all_eq_true.mp (by decide)), shownPieces_escape, front,
    shownText_of_ne_info notInfo, List.append_assoc ("  ".toList ++ sign)]
  rfl

/-- Every message has a line, whatever it says. -/
theorem messageLine_eq (message : Message) :
    messageLine message = .ok (printed
      ((levelFront message.level).toList ++ shownText message.level message.text.toList)) := by
  obtain ⟨level, text⟩ := message
  cases level with
  | info =>
      show Except.ok (plainLine (levelSign .info ++ text)) = _
      rw [plainLine, String.toList_append]
      simp [levelSign, levelFront, shownText, replaceEmoji_cons]
  | success =>
      have notInfo : Level.success ≠ .info := by decide
      exact messageLine_of_sign notInfo 'g' "reen".toList "v".toList (by decide +kernel)
        (List.all_eq_true.mp (by decide)) (by decide) (by decide) text
  | warning =>
      have notInfo : Level.warning ≠ .info := by decide
      exact messageLine_of_sign notInfo 'y' "ellow".toList "!".toList (by decide +kernel)
        (List.all_eq_true.mp (by decide)) (by decide) (by decide) text
  | error =>
      have notInfo : Level.error ≠ .info := by decide
      exact messageLine_of_sign notInfo 'r' "ed".toList "x".toList (by decide +kernel)
        (List.all_eq_true.mp (by decide)) (by decide) (by decide) text

end AddonBindings.Console
