import AddonBindings.Console.Table
import AddonBindings.Proofs.Console.Escaping
import AddonBindings.Proofs.Console.Marks
import AddonBindings.Proofs.Traversal

/-!
Contract: markup that shows its own characters.

Owns:
- texts without tags, backslashes before brackets, emoji codes and cursor controls;
- the law that markup never shows more marks than it has;
- the capstone: a cell shows its own text iff the text is of this kind.

Does not own: how cells are laid out.
-/

namespace AddonBindings.Console

/-! ## Texts that mean themselves -/

/-- Nothing in the characters is a tag. -/
def IsTagless (cs : List Char) : Prop :=
  ∀ content, IsTagContent content → ¬ ('[' :: (content ++ [']'])) <:+: cs

/-- Nothing in the characters means anything to the console. -/
structure IsVerbatim (cs : List Char) : Prop where
  tagless : IsTagless cs
  unescaped : ¬ ['\\', '['] <:+: cs
  codeless : replaceEmoji cs = cs
  uncontrolled : ∀ c ∈ cs, isCursorControl c = false

theorem IsTagless.of_suffix {cs back : List Char} (tagless : IsTagless cs)
    (suffix : back <:+ cs) : IsTagless back :=
  fun content isContent inBack => tagless content isContent (inBack.trans suffix.isInfix)

theorem IsTagless.escapedTag?_eq_none {cs : List Char} (tagless : IsTagless cs) :
    escapedTag? cs = none := by
  rw [Option.eq_none_iff_forall_ne_some]
  rintro ⟨count, content, after⟩ found
  obtain ⟨isContent, same⟩ := escapedTag?_eq_some_iff.mp found
  refine tagless content isContent ⟨List.replicate count '\\', after, ?_⟩
  rw [same]
  simp

/-! ## Marks that are left -/

def Piece.marks : Piece → Nat
  | .text characters => Console.marks characters
  | .kept characters => Console.marks characters
  | .tag _ _ => 0

def marksOfPieces : List Piece → Nat
  | [] => 0
  | piece :: rest => piece.marks + marksOfPieces rest

private theorem marksOfPieces_append (front back : List Piece) :
    marksOfPieces (front ++ back) = marksOfPieces front + marksOfPieces back := by
  induction front with
  | nil => exact (Nat.zero_add _).symm
  | cons piece rest inductionHypothesis =>
      rw [List.cons_append, marksOfPieces, marksOfPieces, inductionHypothesis, Nat.add_assoc]

private theorem marksOfPieces_addCharacter (c : Char) (pieces : List Piece) :
    marksOfPieces (addCharacter c pieces) = marksOfPieces pieces + marks [c] := by
  unfold addCharacter
  split
  · simp only [marksOfPieces, Piece.marks, marks_cons, marks_nil]
    omega
  · simp only [marksOfPieces, Piece.marks]
    omega

private theorem marks_replicate_backslash (count : Nat) :
    marks (List.replicate count '\\') = count := by
  rw [marks, List.countP_replicate, if_pos (by decide)]

/-- Of a tag with its backslashes some marks are always left out. -/
theorem marksOfPieces_tagPieces_lt (position count : Nat) (content : List Char) :
    marksOfPieces (tagPieces position count content) < count + marks content + 1 := by
  have halved : count / 2 ≤ count := Nat.div_le_self count 2
  have bracketed : marks ('[' :: (content ++ [']'])) = marks content + 1 := by
    have opening : isMark '[' = true := by decide
    have closing : isMark ']' = false := by decide
    simp [opening, closing]
  unfold tagPieces
  by_cases odd : count % 2 = 1
  · have positive : count / 2 < count := by omega
    by_cases few : count / 2 = 0
    · simp [marksOfPieces, Piece.marks, bracketed, odd, few]
      omega
    · simp [marksOfPieces, Piece.marks, bracketed, marks_replicate_backslash, odd, few]
      omega
  · by_cases few : count / 2 = 0
    · simp [marksOfPieces, Piece.marks, odd, few]
    · simp [marksOfPieces, Piece.marks, marks_replicate_backslash, odd, few]
      omega

private theorem marks_le_of_shownPieces {pieces : List Piece} {opened : List OpenTag}
    {text : List Char}
    (shows : shownPieces opened pieces = .ok text) : marks text ≤ marksOfPieces pieces := by
  induction pieces generalizing opened text with
  | nil =>
      cases shows
      exact Nat.zero_le _
  | cons piece rest inductionHypothesis =>
      have split : marksOfPieces (piece :: rest) = piece.marks + marksOfPieces rest := rfl
      rw [split]
      cases piece with
      | tag content position =>
          obtain ⟨names, -, later⟩ := Traversal.bind_eq_ok_iff.mp shows
          exact Nat.le_trans (inductionHypothesis later) (Nat.le_add_left _ _)
      | text characters =>
          obtain ⟨later, shown, rfl⟩ := Traversal.map_eq_ok_iff.mp shows
          rw [marks_append]
          exact Nat.add_le_add (marks_plainText_le characters) (inductionHypothesis shown)
      | kept characters =>
          obtain ⟨later, shown, rfl⟩ := Traversal.map_eq_ok_iff.mp shows
          rw [marks_append]
          exact Nat.add_le_add (marks_plainText_le characters) (inductionHypothesis shown)

private theorem marks_tag (count : Nat) (content after : List Char) :
    marks (List.replicate count '\\' ++ '[' :: (content ++ ']' :: after)) =
      count + marks content + 1 + marks after := by
  have opening : isMark '[' = true := by decide
  have closing : isMark ']' = false := by decide
  simp [marks_replicate_backslash, opening, closing]
  omega

private theorem marksOfPieces_piecesFrom_le (position : Nat) (cs : List Char) :
    marksOfPieces (piecesFrom position cs) ≤ marks cs := by
  induction position, cs using piecesFrom.induct with
  | case1 position =>
      rw [piecesFrom]
      exact Nat.zero_le _
  | case2 position c rest count content after found shorter inductionHypothesis =>
      have here := marksOfPieces_tagPieces_lt position count content
      rw [piecesFrom_of_some found, marksOfPieces_append, (escapedTag?_eq_some_iff.mp found).2,
        marks_tag]
      omega
  | case3 position c rest unfound inductionHypothesis =>
      rw [piecesFrom_of_none unfound, marksOfPieces_addCharacter, marks_cons, marks_cons, marks_nil]
      omega

/-- Markup that shows as many marks as it has holds no tag. -/
theorem isTagless_of_marks_le {position : Nat} {cs : List Char}
    (full : marks cs ≤ marksOfPieces (piecesFrom position cs)) : IsTagless cs := by
  induction position, cs using piecesFrom.induct with
  | case1 position =>
      intro content isContent inNothing
      simp at inNothing
  | case2 position c rest count content after found shorter inductionHypothesis =>
      have here := marksOfPieces_tagPieces_lt position count content
      have later := marksOfPieces_piecesFrom_le (position + count + content.length + 2) after
      rw [piecesFrom_of_some found, marksOfPieces_append, (escapedTag?_eq_some_iff.mp found).2,
        marks_tag] at full
      omega
  | case3 position c rest unfound inductionHypothesis =>
      rw [piecesFrom_of_none unfound, marksOfPieces_addCharacter, marks_cons, marks_cons,
        marks_nil] at full
      intro content isContent inside
      rcases List.infix_cons_iff.mp inside with ⟨after, same⟩ | inRest
      · have tag : escapedTag? (c :: rest) = some (0, content, after) := by
          rw [escapedTag?_eq_some_iff, ← same]
          exact ⟨isContent, by simp⟩
        rw [unfound] at tag
        cases tag
      · exact inductionHypothesis (by omega) content isContent inRest

private theorem piecesFrom_of_isTagless {cs : List Char} (tagless : IsTagless cs) (position : Nat) :
    piecesFrom position cs = cs.foldr addCharacter [] := by
  induction cs generalizing position with
  | nil => rw [piecesFrom, List.foldr_nil]
  | cons c rest inductionHypothesis =>
      rw [piecesFrom_of_none tagless.escapedTag?_eq_none, List.foldr_cons,
        inductionHypothesis (tagless.of_suffix (List.suffix_cons c rest))]

private theorem foldr_addCharacter_cons (c : Char) (cs : List Char) :
    (c :: cs).foldr addCharacter [] = [.text (c :: cs)] := by
  induction cs generalizing c with
  | nil => rfl
  | cons second rest inductionHypothesis =>
      rw [List.foldr_cons, inductionHypothesis second]
      rfl

/-- Without tags, markup is plain text. -/
theorem shown_of_isTagless {cs : List Char} (tagless : IsTagless cs) :
    shown cs = .ok (plainText cs) := by
  rw [shown, piecesFrom_of_isTagless tagless]
  cases cs with
  | nil => simp [shownPieces, plainText, unescapeBrackets, replaceEmoji]
  | cons c rest =>
      rw [foldr_addCharacter_cons, shownPieces, shownPieces]
      show Except.ok (plainText (c :: rest) ++ []) = _
      rw [List.append_nil]

/-! ## Texts that mean nothing anywhere -/

/-- Whatever follows, nothing in the characters means anything to the console. -/
structure IsInert (cs : List Char) : Prop where
  codeless : ∀ rest, replaceEmoji (cs ++ rest) = cs ++ replaceEmoji rest
  unbracketed : '[' ∉ cs
  uncontrolled : ∀ c ∈ cs, isCursorControl c = false

theorem IsInert.isVerbatim {cs : List Char} (inert : IsInert cs) : IsVerbatim cs where
  tagless := by
    intro content _ inside
    exact inert.unbracketed (inside.subset List.mem_cons_self)
  unescaped := by
    intro inside
    exact inert.unbracketed (inside.subset (List.mem_cons_of_mem _ List.mem_cons_self))
  codeless := by
    have codeless := inert.codeless []
    rwa [List.append_nil, replaceEmoji, List.append_nil] at codeless
  uncontrolled := inert.uncontrolled

theorem IsInert.append {front back : List Char} (isFront : IsInert front) (isBack : IsInert back) :
    IsInert (front ++ back) where
  codeless := by
    intro rest
    rw [List.append_assoc, isFront.codeless, isBack.codeless, List.append_assoc]
  unbracketed := by
    intro member
    exact (List.mem_append.mp member).elim isFront.unbracketed isBack.unbracketed
  uncontrolled := List.forall_mem_append.mpr ⟨isFront.uncontrolled, isBack.uncontrolled⟩

theorem isInert_of_isPlain {cs : List Char} (plain : ∀ c ∈ cs, isPlain c = true) : IsInert cs where
  codeless := by
    intro rest
    induction cs with
    | nil => rfl
    | cons c others inductionHypothesis =>
        obtain ⟨here, plainOthers⟩ := List.forall_mem_cons.mp plain
        have notColon : c ≠ ':' := by
          rintro rfl
          revert here
          decide
        rw [List.cons_append, replaceEmoji_cons notColon, inductionHypothesis plainOthers]
        rfl
  unbracketed := by
    intro member
    have bracket := plain '[' member
    revert bracket
    decide
  uncontrolled := by
    intro c member
    have here := plain c member
    simp only [isPlain, Bool.and_eq_true, Bool.not_eq_true'] at here
    exact here.2

/-- A colon before a blank starts no emoji code. -/
theorem isInert_colon_blank : IsInert ": ".toList where
  codeless := by
    intro rest
    have uncoded : untilColon? (' ' :: rest) = none := by
      rw [untilColon?, if_neg (by decide), if_pos (by decide)]
    show replaceEmoji (':' :: ' ' :: rest) = ':' :: ' ' :: replaceEmoji rest
    rw [replaceEmoji, if_pos rfl]
    split
    next => rw [replaceEmoji_cons (by decide)]
    next found =>
      rw [uncoded] at found
      cases found
  unbracketed := by decide
  uncontrolled := by
    have printed : ": ".toList.all (fun c => !isCursorControl c) = true := by decide
    simpa using printed

theorem isInert_intercalate {separator : List Char} (isSeparator : IsInert separator)
    {texts : List (List Char)} (inert : ∀ text ∈ texts, IsInert text) :
    IsInert (separator.intercalate texts) := by
  induction texts with
  | nil => exact isInert_of_isPlain (by simp)
  | cons first rest inductionHypothesis =>
      obtain ⟨isFirst, others⟩ := List.forall_mem_cons.mp inert
      cases rest with
      | nil =>
          rw [List.intercalate_singleton]
          exact isFirst
      | cons second more =>
          rw [List.intercalate_cons_cons]
          exact (isFirst.append isSeparator).append (inductionHypothesis others)

/-! ## Cells -/

private theorem withoutControls_eq_self {cs : List Char}
    (uncontrolled : ∀ c ∈ cs, isCursorControl c = false) : withoutControls cs = cs := by
  rw [withoutControls, List.filter_eq_self]
  intro c member
  simp [uncontrolled c member]

private theorem marks_withoutControls_le (cs : List Char) : marks (withoutControls cs) ≤ marks cs :=
  List.filter_sublist.countP_le

/-- Controls are marks, so that none is left out where no mark is. -/
theorem uncontrolled_of_marks_le {cs : List Char} (full : marks cs ≤ marks (withoutControls cs)) :
    ∀ c ∈ cs, isCursorControl c = false := by
  induction cs with
  | nil => simp
  | cons c rest inductionHypothesis =>
      have most := marks_withoutControls_le rest
      cases control : isCursorControl c with
      | true =>
          have marked : isMark c = true := by simp [isMark, isPlain, control]
          have dropped : withoutControls (c :: rest) = withoutControls rest := by
            simp [withoutControls, control]
          rw [dropped, marks_cons, marked, if_pos rfl] at full
          omega
      | false =>
          have kept : withoutControls (c :: rest) = c :: withoutControls rest := by
            simp [withoutControls, control]
          rw [kept, marks_cons, marks_cons] at full
          exact List.forall_mem_cons.mpr ⟨control, inductionHypothesis (by omega)⟩

theorem cellText_of_isVerbatim {cell : String} (verbatim : IsVerbatim cell.toList) :
    cellText cell = .ok cell.toList := by
  rw [cellText, shown_of_isTagless verbatim.tagless, plainText,
    unescapeBrackets_eq_self verbatim.unescaped, verbatim.codeless]
  exact congrArg Except.ok (withoutControls_eq_self verbatim.uncontrolled)

theorem cellText_of_isPlain {cell : String} (plain : ∀ c ∈ cell.toList, isPlain c = true) :
    cellText cell = .ok cell.toList :=
  cellText_of_isVerbatim (isInert_of_isPlain plain).isVerbatim

/-- A cell shows its own text iff nothing in it means anything to the console: whatever
does is left out, or an emoji stands in its place. -/
theorem cellText_eq_self_iff {cell : String} :
    cellText cell = .ok cell.toList ↔ IsVerbatim cell.toList := by
  refine ⟨?_, cellText_of_isVerbatim⟩
  intro same
  -- every step from the markup to the text takes marks away or keeps them, so all of them keep them
  obtain ⟨text, shows, filtered⟩ := Traversal.map_eq_ok_iff.mp same
  have shownMost := marks_le_of_shownPieces shows
  have piecesMost := marksOfPieces_piecesFrom_le 0 cell.toList
  have keptMost := marks_withoutControls_le text
  rw [filtered] at keptMost
  have tagless : IsTagless cell.toList :=
    isTagless_of_marks_le (Nat.le_trans keptMost shownMost)
  have uncontrolled : ∀ c ∈ text, isCursorControl c = false := by
    apply uncontrolled_of_marks_le
    rw [filtered]
    omega
  rw [withoutControls_eq_self uncontrolled] at filtered
  rw [shown_of_isTagless tagless, Except.ok.injEq, filtered] at shows
  rw [filtered] at uncontrolled
  have literal := plainText_eq_self_iff.mp shows
  exact ⟨tagless, literal.unescaped, literal.codeless.replaceEmoji_eq, uncontrolled⟩

end AddonBindings.Console
