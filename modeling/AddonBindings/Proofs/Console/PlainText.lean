import AddonBindings.Console.Report

/-!
Contract: text that the console shows as it is.

Owns:
- the characters that mean nothing to markup, emoji codes and the cursor;
- what is printed of such characters, in plain lines and in markup;
- opening tags, which are not printed.

Does not own: the text of messages with marks in it.
-/

namespace AddonBindings.Console

/-- A character that is shown as it is wherever it stands: no backslash, bracket or
colon, no tabulator and nothing that only moves the cursor. -/
def isPlain (c : Char) : Bool :=
  c != '\\' && c != '[' && c != ':' && c != '\t' && !isCursorControl c

def isPlainMarkup (c : Char) : Bool :=
  c != '\\' && c != '[' && c != ':'

theorem isPlainMarkup_of_isPlain {c : Char} (plain : isPlain c = true) : isPlainMarkup c = true := by
  simp only [isPlain, Bool.and_eq_true] at plain
  simp [isPlainMarkup, plain]

/-- A character that takes its own place in a line: no tabulator and nothing that only
moves the cursor. -/
def isPrinted (c : Char) : Bool :=
  c != '\t' && !isCursorControl c

theorem isPrinted_of_isPlain {c : Char} (plain : isPlain c = true) : isPrinted c = true := by
  simp only [isPlain, Bool.and_eq_true] at plain
  simp [isPrinted, plain]

def markedCharacters : List Char :=
  ['\\', '[', ':', '\t', '\x07', '\x08', '\x0b', '\x0c', '\r']

theorem isPlain_iff {c : Char} : isPlain c = true ↔ c ∉ markedCharacters := by
  simp [isPlain, isCursorControl, markedCharacters, and_assoc]

/-- What no marked character passes is a test for plain characters. -/
theorem isPlain_of_test {test : Char → Bool} (fails : markedCharacters.any test = false)
    {c : Char} (passes : test c = true) : isPlain c = true := by
  rw [isPlain_iff]
  intro marked
  exact List.any_eq_false.mp fails c marked passes

/-! ## Markup -/

theorem escapedTag?_eq_none {c : Char} (notBackslash : c ≠ '\\') (notBracket : c ≠ '[')
    (rest : List Char) : escapedTag? (c :: rest) = none := by
  have count : backslashes (c :: rest) = (0, c :: rest) := by
    simp [backslashes, notBackslash]
  have noTag : tagAtFront? (c :: rest) = none := by
    unfold tagAtFront?
    split
    · rename_i first others same
      exact absurd (List.cons.inj same).1 notBracket
    · rfl
  simp [escapedTag?, count, noTag]

private theorem piecesFrom_append {front : List Char} (plain : ∀ c ∈ front, isPlainMarkup c = true)
    (position : Nat) (rest : List Char) :
    piecesFrom position (front ++ rest) =
      front.foldr addCharacter (piecesFrom (position + front.length) rest) := by
  induction front generalizing position with
  | nil => rfl
  | cons c front inductionHypothesis =>
      have here := plain c (by simp)
      simp only [isPlainMarkup, Bool.and_eq_true, bne_iff_ne, ne_eq] at here
      have noTag := escapedTag?_eq_none here.1.1 here.1.2 (front ++ rest)
      rw [List.cons_append, piecesFrom]
      split
      next found => rw [noTag] at found; cases found
      next =>
        rw [inductionHypothesis (fun other member => plain other (by simp [member])),
          List.foldr_cons, List.length_cons, Nat.add_right_comm, Nat.add_assoc]

private theorem unescapeBrackets_cons {c : Char} (differs : c ≠ '\\') (rest : List Char) :
    unescapeBrackets (c :: rest) = c :: unescapeBrackets rest := by
  rw [unescapeBrackets]
  intro others same
  exact absurd same differs

theorem replaceEmoji_cons {c : Char} (differs : c ≠ ':') (rest : List Char) :
    replaceEmoji (c :: rest) = c :: replaceEmoji rest := by
  rw [replaceEmoji, if_neg differs]

private theorem shownPieces_addCharacter {c : Char} (plain : isPlainMarkup c = true)
    (opened : List OpenTag) (pieces : List Piece) :
    shownPieces opened (addCharacter c pieces) = (shownPieces opened pieces).map (c :: ·) := by
  simp only [isPlainMarkup, Bool.and_eq_true, bne_iff_ne, ne_eq] at plain
  obtain ⟨⟨notBackslash, -⟩, notColon⟩ := plain
  have inFront (characters : List Char) : plainText (c :: characters) = c :: plainText characters := by
    rw [plainText, unescapeBrackets_cons notBackslash, replaceEmoji_cons notColon, plainText]
  have alone : plainText [c] = [c] := by
    simpa [plainText, unescapeBrackets, replaceEmoji] using inFront []
  have mapped (outcome : Except MarkupFault (List Char)) (characters : List Char) :
      outcome.map (fun shown => c :: (characters ++ shown)) =
        (outcome.map (characters ++ ·)).map (c :: ·) := by
    cases outcome <;> rfl
  unfold addCharacter
  split
  next characters rest => simp only [shownPieces, inFront, List.cons_append, mapped]
  next => simp only [shownPieces, alone, List.cons_append, List.nil_append]

/-- Plain characters in front are shown as they are, whatever follows them. -/
theorem shownPieces_piecesFrom_append {front : List Char}
    (plain : ∀ c ∈ front, isPlainMarkup c = true) (opened : List OpenTag) (position : Nat)
    (rest : List Char) :
    shownPieces opened (piecesFrom position (front ++ rest)) =
      (shownPieces opened (piecesFrom (position + front.length) rest)).map (front ++ ·) := by
  rw [piecesFrom_append plain]
  generalize piecesFrom (position + front.length) rest = pieces
  induction front with
  | nil => cases found : shownPieces opened pieces <;> simp [found, Except.map]
  | cons c front inductionHypothesis =>
      rw [List.foldr_cons, shownPieces_addCharacter (plain c (by simp)),
        inductionHypothesis (fun other member => plain other (by simp [member]))]
      cases shownPieces opened pieces <;> rfl

private theorem piecesFrom_tag {first : Char} {inside : List Char} (start : isTagStart first = true)
    (others : ∀ c ∈ inside, isTagRest c = true) (position : Nat) (rest : List Char) :
    piecesFrom position ('[' :: first :: (inside ++ ']' :: rest)) =
      .tag (first :: inside) position :: piecesFrom (position + inside.length + 3) rest := by
  have dropped : (inside ++ ']' :: rest).dropWhile isTagRest = ']' :: rest := by
    rw [List.dropWhile_append_of_pos others]
    rfl
  have taken : (inside ++ ']' :: rest).takeWhile isTagRest = inside := by
    rw [List.takeWhile_append_of_pos others]
    simp [isTagRest]
  have found : escapedTag? ('[' :: first :: (inside ++ ']' :: rest)) =
      some (0, first :: inside, rest) := by
    simp [escapedTag?, backslashes, tagAtFront?, start, dropped, taken]
  rw [piecesFrom]
  split
  next count content after same =>
    rw [found] at same
    simp only [Option.some.injEq, Prod.mk.injEq] at same
    obtain ⟨rfl, rfl, rfl⟩ := same
    simp only [tagPieces, Nat.zero_div, Nat.zero_mod, List.length_cons, List.nil_append,
      if_true, Nat.add_zero, List.cons_append]
    rw [if_neg (by decide), Nat.add_assoc, Nat.add_assoc]
    rfl
  next same => rw [found] at same; cases same

/-! ## Lines -/

/-- Characters that fill no columns stay in front. -/
theorem fillTabs_append {front : List Char} (kept : ∀ c ∈ front, isPrinted c = true) (column : Nat)
    (rest : List Char) :
    ∃ further, fillTabs column (front ++ rest) = front ++ fillTabs further rest := by
  induction front generalizing column with
  | nil => exact ⟨column, rfl⟩
  | cons c front inductionHypothesis =>
      have here := kept c (by simp)
      simp only [isPrinted, Bool.and_eq_true, bne_iff_ne, ne_eq] at here
      obtain ⟨notTab, -⟩ := here
      have others : ∀ other ∈ front, isPrinted other = true :=
        fun other member => kept other (by simp [member])
      rw [List.cons_append, fillTabs, if_neg notTab]
      split
      · obtain ⟨further, filled⟩ := inductionHypothesis others 0
        exact ⟨further, by rw [filled, List.cons_append]⟩
      · obtain ⟨further, filled⟩ := inductionHypothesis others (column + Text.cellWidth c)
        exact ⟨further, by rw [filled, List.cons_append]⟩

private theorem withoutControls_append {front : List Char} (kept : ∀ c ∈ front, isPrinted c = true)
    (rest : List Char) : withoutControls (front ++ rest) = front ++ withoutControls rest := by
  have whole : front.filter (fun c => !isCursorControl c) = front := by
    rw [List.filter_eq_self]
    intro c member
    have here := kept c member
    simp only [isPrinted, Bool.and_eq_true] at here
    exact here.2
  rw [withoutControls, List.filter_append, whole, withoutControls]

theorem isPrefix_printed {front : List Char} (kept : ∀ c ∈ front, isPrinted c = true)
    (rest : List Char) : front <+: (printed (front ++ rest)).toList := by
  obtain ⟨further, filled⟩ := fillTabs_append kept 0 (withoutControls rest)
  rw [printed, String.toList_ofList, withoutControls_append kept, filled, List.append_assoc]
  exact List.prefix_append front _

theorem printed_eq_self {cs : List Char} (kept : ∀ c ∈ cs, isPrinted c = true) :
    printed cs = String.ofList (cs ++ ['\n']) := by
  obtain ⟨further, filled⟩ := fillTabs_append kept 0 []
  have uncontrolled := withoutControls_append kept []
  rw [List.append_nil] at filled uncontrolled
  rw [printed, uncontrolled, withoutControls, List.filter_nil, List.append_nil, filled, fillTabs,
    List.append_nil]

/-- A tag that opens a style and holds nothing that is read when it is closed. -/
def isStyleTag (first : Char) (inside : List Char) : Bool :=
  isTagStart first && first != '/' && inside.all isTagRest &&
    (openTag (first :: inside)).toOption.any fun tag => tag.parameters.isEmpty

private theorem openAfter_of_ne_slash {first : Char} (notSlash : first ≠ '/') (inside : List Char)
    (position : Nat) (opened : List OpenTag) :
    openAfter (first :: inside) position opened =
      (openTag (first :: inside)).map (· :: opened) := by
  unfold openAfter
  split
  next name same =>
    rw [tagName, List.takeWhile_cons] at same
    split at same
    · exact absurd (List.cons.inj same).1 notSlash
    · cases same
  next => rfl

private theorem close_of_parameters_nil {tag : OpenTag} (empty : tag.parameters = []) :
    tag.close = .ok () := by
  simp [OpenTag.close, empty]

/-- A style is opened by a tag that can be closed. -/
theorem exists_shownPieces_styleTag {first : Char} {inside : List Char}
    (styled : isStyleTag first inside = true) :
    ∃ tag : OpenTag, tag.close = .ok () ∧ ∀ position rest,
      shownPieces [] (piecesFrom position ('[' :: first :: (inside ++ ']' :: rest))) =
        shownPieces [tag] (piecesFrom (position + inside.length + 3) rest) := by
  simp only [isStyleTag, Bool.and_eq_true, bne_iff_ne, ne_eq] at styled
  obtain ⟨⟨⟨start, notSlash⟩, others⟩, opens⟩ := styled
  cases opened : openTag (first :: inside) with
  | error fault =>
      rw [opened] at opens
      cases opens
  | ok tag =>
      rw [opened] at opens
      refine ⟨tag, close_of_parameters_nil (List.isEmpty_iff.mp opens), ?_⟩
      intro position rest
      rw [piecesFrom_tag start (List.all_eq_true.mp others), shownPieces,
        openAfter_of_ne_slash notSlash, opened]
      rfl

theorem shownPieces_closing {tag : OpenTag} (closes : tag.close = .ok ()) (position : Nat)
    (rest : List Char) :
    shownPieces [tag] (piecesFrom position ("[/]".toList ++ rest)) =
      shownPieces [] (piecesFrom (position + 3) rest) := by
  have closing : piecesFrom position ("[/]".toList ++ rest) =
      .tag ['/'] position :: piecesFrom (position + 3) rest :=
    @piecesFrom_tag '/' [] (by decide) (by simp) position rest
  have closed : openAfter ['/'] position [tag] = .ok [] := by
    show tag.close.map (fun _ => []) = .ok []
    rw [closes]
    rfl
  rw [closing, shownPieces, closed]
  rfl

/-- Plain text with a tag in it that is closed at the end is printed without the tags. -/
theorem markupLine_of_tag (front : List Char) (first : Char) (inside back : List Char)
    (styled : isStyleTag first inside = true) (plain : ∀ c ∈ front ++ back, isPlain c = true) :
    markupLine (front ++ '[' :: first :: (inside ++ ']' :: (back ++ "[/]".toList))) =
      .ok (String.ofList (front ++ back ++ ['\n'])) := by
  have plainMarkup : ∀ c ∈ front ++ back, isPlainMarkup c = true :=
    fun c member => isPlainMarkup_of_isPlain (plain c member)
  obtain ⟨tag, closes, opens⟩ := exists_shownPieces_styleTag styled
  rw [markupLine, shown,
    shownPieces_piecesFrom_append fun c member => plainMarkup c (List.mem_append_left _ member),
    opens, shownPieces_piecesFrom_append
      fun c member => plainMarkup c (List.mem_append_right _ member),
    ← List.append_nil "[/]".toList, shownPieces_closing closes, piecesFrom]
  show Except.ok (printed (front ++ (back ++ []))) = _
  rw [List.append_nil, printed_eq_self fun c member => isPrinted_of_isPlain (plain c member)]

/-- Plain characters on both sides of an opening tag are printed without it. -/
theorem isPrefix_markupLine_tag (front : List Char) (first : Char) (inside back : List Char)
    (styled : isStyleTag first inside = true) (plain : ∀ c ∈ front ++ back, isPlain c = true)
    {rest : List Char} {line : String}
    (shows : markupLine (front ++ '[' :: first :: (inside ++ ']' :: (back ++ rest))) = .ok line) :
    front ++ back <+: line.toList := by
  have plainMarkup : ∀ c ∈ front ++ back, isPlainMarkup c = true :=
    fun c member => isPlainMarkup_of_isPlain (plain c member)
  obtain ⟨tag, -, opens⟩ := exists_shownPieces_styleTag styled
  rw [markupLine, shown,
    shownPieces_piecesFrom_append fun c member => plainMarkup c (List.mem_append_left _ member),
    opens, shownPieces_piecesFrom_append
      fun c member => plainMarkup c (List.mem_append_right _ member)] at shows
  generalize shownPieces _ _ = outcome at shows
  cases outcome with
  | error fault => cases shows
  | ok characters =>
      cases shows
      show front ++ back <+: (printed (front ++ (back ++ characters))).toList
      rw [← List.append_assoc]
      exact isPrefix_printed (fun c member => isPrinted_of_isPlain (plain c member)) characters

end AddonBindings.Console
