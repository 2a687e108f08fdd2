/-!
Contract: line structure of texts.

Owns:
- splitting at every kind of line break and splitting at one chosen mark;
- folding carriage returns into line feeds, as is done on reading a text file;
- the law that joining undoes splitting at a mark.

Does not own: blanks around lines, which are in `AddonBindings.Text.Blank`.
-/

namespace AddonBindings.Text

/-- A character that ends a line by itself: the ASCII vertical moves, the ASCII
file, group and record separators, and the Unicode next-line, line and paragraph
separators. -/
def isLineBreak (c : Char) : Bool :=
  (10 ≤ c.val && c.val ≤ 13) || (28 ≤ c.val && c.val ≤ 30) || c.val == 0x85 ||
    c.val == 0x2028 || c.val == 0x2029

/-- The lines of a text.  A carriage return and the line feed after it are one
break, and a break at the very end opens no further line. -/
def splitLines : List Char → List (List Char)
  | [] => []
  | '\r' :: '\n' :: rest => [] :: splitLines rest
  | c :: rest =>
      if isLineBreak c then [] :: splitLines rest
      else
        match splitLines rest with
        | [] => [[c]]
        | line :: more =>
            -- a break right after `c` has already opened the empty line that `c` belongs to
            (c :: line) :: more

/-- The parts of a text between the occurrences of `mark`; there is always at
least one part. -/
def splitAtMark (mark : Char) : List Char → List (List Char)
  | [] => [[]]
  | c :: rest =>
      if c = mark then [] :: splitAtMark mark rest
      else
        match splitAtMark mark rest with
        | [] => [[c]]
        | part :: more => (c :: part) :: more

/-- A carriage return counts as a line feed, and so does a carriage return
together with the line feed after it. -/
def foldNewlines : List Char → List Char
  | [] => []
  | '\r' :: '\n' :: rest => '\n' :: foldNewlines rest
  | c :: rest => (if c = '\r' then '\n' else c) :: foldNewlines rest

/-- The parts of a text between the occurrences of `mark`. -/
def splitText (mark : Char) (text : String) : List String :=
  (splitAtMark mark text.toList).map String.ofList

/-- Splitting at a mark gives at least one part. -/
theorem splitAtMark_ne_nil (mark : Char) (cs : List Char) : splitAtMark mark cs ≠ [] := by
  induction cs with
  | nil => simp [splitAtMark]
  | cons c rest ih =>
      unfold splitAtMark
      split
      · simp
      · split <;> simp

/-- Joining the parts with the mark gives the text back. -/
theorem intercalate_splitAtMark (mark : Char) (cs : List Char) :
    [mark].intercalate (splitAtMark mark cs) = cs := by
  induction cs with
  | nil => rfl
  | cons c rest ih =>
      unfold splitAtMark
      have parts := splitAtMark_ne_nil mark rest
      split
      next isMark =>
        cases found : splitAtMark mark rest with
        | nil => exact absurd found parts
        | cons part more =>
            rw [found] at ih
            simp [List.intercalate_cons_cons, ih, isMark]
      next notMark =>
        cases found : splitAtMark mark rest with
        | nil => exact absurd found parts
        | cons part more =>
            rw [found] at ih
            cases more with
            | nil => simpa [List.intercalate] using ih
            | cons next others =>
                simp only [List.intercalate_cons_cons] at ih ⊢
                simp [← ih]

end AddonBindings.Text
