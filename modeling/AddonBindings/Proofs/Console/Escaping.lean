import AddonBindings.Proofs.Console.PlainText

/-!
Contract: escaped text is shown.

Owns:
- the form of a tag after backslashes;
- that markup finds no tag in an escaped text, whatever the text is;
- that pieces without tags show their characters, and a closed tag shows nothing;
- that a line of closed tags and an escaped text can always be shown.

Does not own: which characters are printed for the text, which is in
`AddonBindings.Proofs.Console.LiteralText`.
-/

namespace AddonBindings.Console

/-! ## Tags after backslashes -/

structure IsTagContent (content : List Char) : Prop where
  start : ∃ first inside, content = first :: inside ∧ isTagStart first = true
  inside : ∀ c ∈ content, isTagRest c = true

private theorem isTagRest_of_isTagStart {c : Char} (start : isTagStart c = true) :
    isTagRest c = true := by
  have opening : c ≠ '[' := by
    rintro rfl
    revert start
    decide
  have closing : c ≠ ']' := by
    rintro rfl
    revert start
    decide
  simp [isTagRest, opening, closing]

private theorem tagAtFront?_eq_some_iff {cs content after : List Char} :
    tagAtFront? cs = some (content, after) ↔
      IsTagContent content ∧ cs = '[' :: (content ++ ']' :: after) := by
  constructor
  · intro found
    unfold tagAtFront? at found
    split at found
    next first rest =>
      split at found
      next start =>
        split at found
        next others dropped =>
          simp only [Option.some.injEq, Prod.mk.injEq] at found
          obtain ⟨rfl, rfl⟩ := found
          refine ⟨⟨⟨first, _, rfl, start⟩, ?_⟩, ?_⟩
          · intro c member
            rcases List.mem_cons.mp member with rfl | inRest
            · exact isTagRest_of_isTagStart start
            · exact List.all_eq_true.mp List.all_takeWhile c inRest
          · rw [List.cons_append, ← dropped, List.takeWhile_append_dropWhile]
        next => cases found
      next => cases found
    next => cases found
  · rintro ⟨⟨⟨first, inside, rfl, start⟩, others⟩, rfl⟩
    have tail : ∀ c ∈ inside, isTagRest c = true :=
      fun c member => others c (List.mem_cons_of_mem first member)
    rw [List.cons_append, tagAtFront?, if_pos start, List.dropWhile_append_of_pos tail,
      List.takeWhile_append_of_pos tail]
    simp [isTagRest]

/-- What counts as a tag for the escaping: backslashes, and a tag right behind them. -/
theorem escapedTag?_eq_some_iff {cs content after : List Char} {count : Nat} :
    escapedTag? cs = some (count, content, after) ↔
      IsTagContent content ∧
        cs = List.replicate count '\\' ++ '[' :: (content ++ ']' :: after) := by
  constructor
  · intro found
    obtain ⟨⟨inner, left⟩, tag, same⟩ := Option.map_eq_some_iff.mp found
    obtain ⟨rfl, rfl, rfl⟩ : _ ∧ inner = content ∧ left = after := by simpa using same
    obtain ⟨isContent, whole⟩ := tagAtFront?_eq_some_iff.mp tag
    have front : cs.takeWhile (· == '\\') =
        List.replicate (cs.takeWhile (· == '\\')).length '\\' :=
      List.eq_replicate_of_mem fun c member =>
        beq_iff_eq.mp (List.all_eq_true.mp List.all_takeWhile c member)
    refine ⟨isContent, ?_⟩
    rw [← whole, ← front]
    exact List.takeWhile_append_dropWhile.symm
  · rintro ⟨isContent, rfl⟩
    have slashes : ∀ c ∈ List.replicate count '\\', (c == '\\') = true :=
      fun c member => beq_iff_eq.mpr (List.eq_of_mem_replicate member)
    have counted : backslashes (List.replicate count '\\' ++ '[' :: (content ++ ']' :: after)) =
        (count, '[' :: (content ++ ']' :: after)) := by
      rw [backslashes, List.takeWhile_append_of_pos slashes, List.dropWhile_append_of_pos slashes,
        List.takeWhile_cons_of_neg (by decide), List.dropWhile_cons_of_neg (by decide),
        List.append_nil, List.length_replicate]
    rw [escapedTag?, counted]
    exact Option.map_eq_some_iff.mpr ⟨_, tagAtFront?_eq_some_iff.mpr ⟨isContent, rfl⟩, rfl⟩

/-- One more backslash in front. -/
theorem escapedTag?_backslash {cs content after : List Char} {count : Nat}
    (found : escapedTag? cs = some (count, content, after)) :
    escapedTag? ('\\' :: cs) = some (count + 1, content, after) := by
  obtain ⟨isContent, rfl⟩ := escapedTag?_eq_some_iff.mp found
  exact escapedTag?_eq_some_iff.mpr ⟨isContent, by rw [List.replicate_succ, List.cons_append]⟩

/-! ## Escaped text -/

/-- The backslashes in front of a tag are doubled, and one more is added. -/
theorem escapeTags_of_some {c : Char} {rest content after : List Char} {count : Nat}
    (found : escapedTag? (c :: rest) = some (count, content, after)) :
    escapeTags (c :: rest) =
      List.replicate (2 * count + 1) '\\' ++ '[' :: (content ++ ']' :: escapeTags after) := by
  rw [escapeTags]
  split
  next same =>
    rw [found] at same
    obtain ⟨rfl, rfl, rfl⟩ : _ = _ ∧ _ = _ ∧ _ = _ := by simpa using same
    rfl
  next same => rw [found] at same; cases same

theorem escapeTags_of_none {c : Char} {rest : List Char}
    (unfound : escapedTag? (c :: rest) = none) : escapeTags (c :: rest) = c :: escapeTags rest := by
  rw [escapeTags]
  split
  next same => rw [unfound] at same; cases same
  next => rfl

/-- The tag at the front of an escaped text has an odd number of backslashes. -/
theorem escapedTag?_escapeTags_append {c : Char} {rest content after : List Char} {count : Nat}
    (found : escapedTag? (c :: rest) = some (count, content, after)) (tail : List Char) :
    escapedTag? (escapeTags (c :: rest) ++ tail) =
      some (2 * count + 1, content, escapeTags after ++ tail) := by
  obtain ⟨isContent, -⟩ := escapedTag?_eq_some_iff.mp found
  rw [escapeTags_of_some found]
  exact escapedTag?_eq_some_iff.mpr ⟨isContent, by simp⟩

/-- Escaping moves no bracket: what stands in front of a closing bracket stood there
before. -/
theorem exists_eq_of_escapeTags_append {cs tail : List Char}
    (closed : ∀ c ∈ tail, isTagRest c = true) {content after : List Char}
    (inside : ∀ c ∈ content, isTagRest c = true)
    (same : escapeTags cs ++ tail = content ++ ']' :: after) :
    ∃ rest, cs = content ++ ']' :: rest := by
  induction cs using escapeTags.induct generalizing content with
  | case1 =>
      rw [escapeTags, List.nil_append] at same
      have bracket := closed ']' (by rw [same]; simp)
      cases bracket
  | case2 c rest count tag left found =>
      -- the first bracket is the one that opens the tag
      have slashes : ∀ c ∈ List.replicate (2 * count + 1) '\\', isTagRest c = true := by
        intro c member
        rw [List.eq_of_mem_replicate member]
        decide
      have dropped := congrArg (List.dropWhile isTagRest) same
      rw [escapeTags_of_some found, List.append_assoc, List.dropWhile_append_of_pos slashes,
        List.dropWhile_append_of_pos inside, List.cons_append,
        List.dropWhile_cons_of_neg (by decide), List.dropWhile_cons_of_neg (by decide)] at dropped
      cases (List.cons.inj dropped).1
  | case3 c rest unfound inductionHypothesis =>
      rw [escapeTags_of_none unfound, List.cons_append] at same
      cases content with
      | nil =>
          obtain ⟨rfl, -⟩ := List.cons.inj same
          exact ⟨rest, rfl⟩
      | cons first others =>
          obtain ⟨rfl, sameRest⟩ := List.cons.inj same
          obtain ⟨later, rfl⟩ := inductionHypothesis
            (fun d member => inside d (List.mem_cons_of_mem c member)) sameRest
          exact ⟨later, rfl⟩

/-- A tag in an escaped text is one of the text, with more backslashes in front. -/
theorem exists_escapedTag?_of_escapeTags {cs tail : List Char}
    (closed : ∀ c ∈ tail, isTagRest c = true) {content after : List Char} {count : Nat}
    (found : escapedTag? (escapeTags cs ++ tail) = some (count, content, after)) :
    ∃ number later, escapedTag? cs = some (number, content, later) := by
  induction cs using escapeTags.induct generalizing count with
  | case1 =>
      obtain ⟨-, same⟩ := escapedTag?_eq_some_iff.mp found
      rw [escapeTags, List.nil_append] at same
      have bracket := closed '[' (by rw [same]; simp)
      cases bracket
  | case2 c rest number tag left tagFound =>
      have front := escapedTag?_escapeTags_append tagFound tail
      rw [found, Option.some.injEq, Prod.mk.injEq, Prod.mk.injEq] at front
      exact ⟨number, left, by rw [tagFound, front.2.1]⟩
  | case3 c rest unfound inductionHypothesis =>
      rw [escapeTags_of_none unfound, List.cons_append] at found
      obtain ⟨isContent, same⟩ := escapedTag?_eq_some_iff.mp found
      -- the kept character is the bracket of the tag or its first backslash
      cases count with
      | zero =>
          obtain ⟨rfl, sameRest⟩ := List.cons.inj same
          obtain ⟨later, rfl⟩ :=
            exists_eq_of_escapeTags_append closed isContent.inside sameRest
          exact ⟨0, later, escapedTag?_eq_some_iff.mpr ⟨isContent, rfl⟩⟩
      | succ number =>
          rw [List.replicate_succ, List.cons_append] at same
          obtain ⟨rfl, sameRest⟩ := List.cons.inj same
          obtain ⟨number, later, restFound⟩ :=
            inductionHypothesis (escapedTag?_eq_some_iff.mpr ⟨isContent, sameRest⟩)
          exact ⟨number + 1, later, escapedTag?_backslash restFound⟩

/-! ## Markup without tags -/

def IsUntagged (pieces : List Piece) : Prop :=
  ∀ content position, .tag content position ∉ pieces

private theorem isUntagged_addCharacter {pieces : List Piece} (untagged : IsUntagged pieces)
    (c : Char) :
    IsUntagged (addCharacter c pieces) := by
  intro content position member
  unfold addCharacter at member
  split at member
  next characters rest =>
    rcases List.mem_cons.mp member with same | inRest
    · cases same
    · exact untagged content position (List.mem_cons_of_mem _ inRest)
  next =>
    rcases List.mem_cons.mp member with same | inPieces
    · cases same
    · exact untagged content position inPieces

/-- An odd number of backslashes makes a tag text. -/
theorem isUntagged_tagPieces (position number : Nat) (content : List Char) :
    IsUntagged (tagPieces position (2 * number + 1) content) := by
  intro other place member
  have odd : (2 * number + 1) % 2 = 1 := by omega
  rw [tagPieces, if_pos odd] at member
  split at member <;> simp at member

private theorem isUntagged_append {front back : List Piece} (untagged : IsUntagged front)
    (backUntagged : IsUntagged back) : IsUntagged (front ++ back) := by
  intro content position member
  rcases List.mem_append.mp member with inFront | inBack
  · exact untagged content position inFront
  · exact backUntagged content position inBack

def Piece.characters : Piece → List Char
  | .text characters => characters
  | .kept characters => characters
  | .tag content _ => '[' :: (content ++ [']'])

/-- Without tags, every piece shows its own characters. -/
theorem shownPieces_of_isUntagged {pieces : List Piece} (untagged : IsUntagged pieces)
    (opened : List OpenTag) :
    shownPieces opened pieces = .ok ((pieces.map Piece.characters).flatMap plainText) := by
  induction pieces with
  | nil => rfl
  | cons piece rest inductionHypothesis =>
      have shows := inductionHypothesis
        fun content position member => untagged content position (List.mem_cons_of_mem piece member)
      cases piece with
      | text characters | kept characters => rw [shownPieces, shows]; rfl
      | tag content position => exact absurd List.mem_cons_self (untagged content position)

theorem piecesFrom_of_none {c : Char} {rest : List Char} (unfound : escapedTag? (c :: rest) = none)
    (position : Nat) :
    piecesFrom position (c :: rest) = addCharacter c (piecesFrom (position + 1) rest) := by
  rw [piecesFrom]
  split
  next same => rw [unfound] at same; cases same
  next => rfl

theorem piecesFrom_of_some {cs content after : List Char} {count : Nat}
    (found : escapedTag? cs = some (count, content, after)) (position : Nat) :
    piecesFrom position cs =
      tagPieces position count content ++ piecesFrom (position + count + content.length + 2) after := by
  cases cs with
  | nil => cases found
  | cons c rest =>
      rw [piecesFrom]
      split
      next same =>
        rw [found] at same
        obtain ⟨rfl, rfl, rfl⟩ : _ = _ ∧ _ = _ ∧ _ = _ := by simpa using same
        rfl
      next same => rw [found] at same; cases same

/-- A character that opens no tag and stands for no backslash in front of one. -/
def isUnmarked (c : Char) : Bool :=
  c != '\\' && c != '['

theorem escapedTag?_eq_none_of_isUnmarked {c : Char} (unmarked : isUnmarked c = true)
    (rest : List Char) : escapedTag? (c :: rest) = none := by
  simp only [isUnmarked, Bool.and_eq_true, bne_iff_ne, ne_eq] at unmarked
  exact escapedTag?_eq_none unmarked.1 unmarked.2 rest

/-- Text without backslashes and opening brackets adds no tag. -/
theorem isUntagged_piecesFrom_append {front rest : List Char}
    (unmarked : ∀ c ∈ front, isUnmarked c = true)
    (untagged : ∀ position, IsUntagged (piecesFrom position rest)) (position : Nat) :
    IsUntagged (piecesFrom position (front ++ rest)) := by
  induction front generalizing position with
  | nil => exact untagged position
  | cons c front inductionHypothesis =>
      have noTag := escapedTag?_eq_none_of_isUnmarked (unmarked c (by simp)) (front ++ rest)
      rw [List.cons_append, piecesFrom_of_none noTag]
      exact isUntagged_addCharacter
        (inductionHypothesis (fun other member => unmarked other (by simp [member])) (position + 1)) c

private theorem isUntagged_piecesFrom_nil (position : Nat) :
    IsUntagged (piecesFrom position []) := by
  intro content place member
  rw [piecesFrom] at member
  cases member

private theorem isUntagged_piecesFrom_of_forall {cs : List Char}
    (closed : ∀ c ∈ cs, isTagRest c = true)
    (position : Nat) : IsUntagged (piecesFrom position cs) := by
  induction cs generalizing position with
  | nil => exact isUntagged_piecesFrom_nil position
  | cons c rest inductionHypothesis =>
      have noTag : escapedTag? (c :: rest) = none := by
        rw [Option.eq_none_iff_forall_ne_some]
        rintro ⟨count, content, after⟩ found
        have bracket := closed '[' (by rw [(escapedTag?_eq_some_iff.mp found).2]; simp)
        cases bracket
      rw [piecesFrom_of_none noTag]
      exact isUntagged_addCharacter
        (inductionHypothesis (fun d member => closed d (List.mem_cons_of_mem c member)) _) c

theorem isUntagged_piecesFrom_escapeTags (cs : List Char) {tail : List Char}
    (closed : ∀ c ∈ tail, isTagRest c = true) (position : Nat) :
    IsUntagged (piecesFrom position (escapeTags cs ++ tail)) := by
  induction cs using escapeTags.induct generalizing position with
  | case1 =>
      rw [escapeTags, List.nil_append]
      exact isUntagged_piecesFrom_of_forall closed position
  | case2 c rest count content after found _ inductionHypothesis =>
      rw [piecesFrom_of_some (escapedTag?_escapeTags_append found tail)]
      exact isUntagged_append (isUntagged_tagPieces position count content) (inductionHypothesis _)
  | case3 c rest unfound inductionHypothesis =>
      have noTag : escapedTag? (escapeTags (c :: rest) ++ tail) = none := by
        rw [Option.eq_none_iff_forall_ne_some]
        rintro ⟨count, content, after⟩ found
        obtain ⟨number, later, tag⟩ := exists_escapedTag?_of_escapeTags closed found
        rw [unfound] at tag
        cases tag
      rw [escapeTags_of_none unfound, List.cons_append] at noTag ⊢
      rw [piecesFrom_of_none noTag]
      exact isUntagged_addCharacter (inductionHypothesis (position + 1)) c

/-- Markup finds no tag in an escaped text, whatever the text is. -/
theorem isUntagged_piecesFrom_escape (cs : List Char) {tail : List Char}
    (closed : ∀ c ∈ tail, isTagRest c = true) (position : Nat) :
    IsUntagged (piecesFrom position (escape cs ++ tail)) := by
  have slashed : ∀ c ∈ '\\' :: tail, isTagRest c = true :=
    List.forall_mem_cons.mpr ⟨by decide, closed⟩
  unfold escape
  dsimp only
  split
  · rw [List.append_assoc, List.singleton_append]
    exact isUntagged_piecesFrom_escapeTags cs slashed position
  · exact isUntagged_piecesFrom_escapeTags cs closed position

/-- A closed tag in front of markup is not shown. -/
theorem exists_shown_tag (front : List Char) (first : Char) (inside back : List Char)
    (styled : isStyleTag first inside = true)
    (plain : ∀ c ∈ front ++ back, isPlainMarkup c = true) (rest : List Char) :
    ∃ position, shown
      (front ++ '[' :: first :: (inside ++ ']' :: (back ++ ("[/]".toList ++ rest)))) =
        (shownPieces [] (piecesFrom position rest)).map (front ++ back ++ ·) := by
  obtain ⟨tag, closes, opens⟩ := exists_shownPieces_styleTag styled
  refine ⟨0 + front.length + inside.length + 3 + back.length + 3, ?_⟩
  rw [shown, shownPieces_piecesFrom_append fun c member => plain c (List.mem_append_left _ member),
    opens, shownPieces_piecesFrom_append fun c member => plain c (List.mem_append_right _ member),
    shownPieces_closing closes]
  cases shownPieces [] (piecesFrom _ rest) with
  | error fault => rfl
  | ok text => exact congrArg Except.ok (List.append_assoc front back text).symm

/-- A closed tag in front of markup without tags leaves a line that is shown. -/
theorem exists_markupLine_of_isUntagged (front : List Char) (first : Char)
    (inside back : List Char) (styled : isStyleTag first inside = true)
    (plain : ∀ c ∈ front ++ back, isPlainMarkup c = true) {rest : List Char}
    (untagged : ∀ position, IsUntagged (piecesFrom position rest)) :
    ∃ line, markupLine
      (front ++ '[' :: first :: (inside ++ ']' :: (back ++ ("[/]".toList ++ rest)))) = .ok line := by
  obtain ⟨position, shows⟩ := exists_shown_tag front first inside back styled plain rest
  rw [markupLine, shows, shownPieces_of_isUntagged (untagged position)]
  exact ⟨_, rfl⟩

end AddonBindings.Console
