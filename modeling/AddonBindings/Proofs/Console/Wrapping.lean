import AddonBindings.Console.Table
import AddonBindings.Proofs.Text.LineBreaks
import AddonBindings.Proofs.Text.Trimming
import Mathlib.Data.List.Forall2

/-!
Contract: lines that are not wrapped.

Owns:
- that words and lines keep every character in its place;
- the texts that take one line wherever they fit, and what is printed of them in a row.

Does not own: texts that are wrapped, of which only the number of lines matters.
-/

namespace AddonBindings.Console

open AddonBindings.Text

/-! ## Words -/

private theorem flatten_stretches (line : List Char) : (stretches line).flatten = line := by
  induction line with
  | nil => rfl
  | cons c rest inductionHypothesis =>
      unfold stretches
      split
      next none =>
        rw [none] at inductionHypothesis
        simpa using inductionHypothesis
      next stretch more some =>
        rw [some] at inductionHypothesis
        split <;> simp [← inductionHypothesis]

private theorem flatten_wordsWithBlanks (line : List Char) :
    (wordsWithBlanks line).flatten = line := by
  have whole := flatten_stretches line
  unfold wordsWithBlanks
  split
  next first second more cut =>
    rw [cut] at whole
    split
    · simpa using whole
    · exact whole
  next => exact whole

private theorem lineWidth_dropEndWhile_le (cs : List Char) :
    lineWidth (dropEndWhile isBlank cs) ≤ lineWidth cs := by
  obtain ⟨back, -, split⟩ := exists_dropEndWhile_append cs
  conv => rhs; rw [split, lineWidth_append]
  exact Nat.le_add_right _ _

/-- Words that fit together stay on the line that has been started. -/
theorem fillWords_of_le {width : Nat} {words : List (List Char)} {taken : Nat}
    (fits : taken + lineWidth words.flatten ≤ width) (line : List Char) :
    fillWords width taken line words = [line ++ words.flatten] := by
  induction words generalizing taken line with
  | nil => simp [fillWords]
  | cons word rest inductionHypothesis =>
      rw [List.flatten_cons, lineWidth_append] at fits
      have shorter := lineWidth_dropEndWhile_le word
      have here : taken + lineWidth (dropEndWhile isBlank word) ≤ width := by omega
      rw [fillWords, if_pos (by simp [here]), inductionHypothesis (by omega), List.flatten_cons,
        List.append_assoc]

private theorem fillWords_ne_nil (width taken : Nat) (line : List Char) (words : List (List Char)) :
    fillWords width taken line words ≠ [] := by
  induction words generalizing taken line with
  | nil => simp [fillWords]
  | cons word rest inductionHypothesis =>
      unfold fillWords
      split
      · exact inductionHypothesis _ _
      · exact List.cons_ne_nil _ _

/-! ## Lines -/

private theorem lineWidth_withoutExcess_le (width : Nat) (line : List Char) :
    lineWidth (withoutExcess width line) ≤ lineWidth line := by
  conv => rhs; rw [← List.take_append_drop
    (line.length - min (line.length - (dropEndWhile isBlank line).length) (line.length - width)) line,
    lineWidth_append]
  exact Nat.le_add_right _ _

private theorem wrapped_of_le {width : Nat} {line : List Char} (fits : lineWidth line ≤ width) :
    wrapped width line = [withoutExcess width line] := by
  have together : 0 + lineWidth (wordsWithBlanks line).flatten ≤ width := by
    rw [flatten_wordsWithBlanks]
    omega
  have short := Nat.le_trans (lineWidth_withoutExcess_le width line) fits
  rw [wrapped, fillWords_of_le together, List.nil_append, flatten_wordsWithBlanks, List.map_singleton,
    shortened, if_pos short]

private theorem cellLines_ne_nil (width : Nat) (cs : List Char) : cellLines width cs ≠ [] := by
  obtain ⟨line, others, split⟩ :=
    List.exists_cons_of_ne_nil (splitAtMark_ne_nil '\n' (fillTabs 0 cs))
  rw [cellLines, split, List.flatMap_cons, wrapped]
  simp [fillWords_ne_nil]

/-! ## Texts that take one line -/

/-- The text takes one line wherever it fits: it has no line break and no tabulator, and
its last blanks are spaces, as are those behind it. -/
structure IsPlainLine (cs : List Char) : Prop where
  oneLine : IsOneLine cs
  untabbed : '\t' ∉ cs
  spaced : ∀ c ∈ cs.reverse.takeWhile isBlank, c = ' '

/-- A text without blanks other than spaces takes one line. -/
theorem isPlainLine_of_all {cs : List Char} (spaced : cs.all (fun c => !isBlank c || c == ' ') = true) :
    IsPlainLine cs := by
  have isSpace : ∀ c ∈ cs, isBlank c = true → c = ' ' := by
    intro c member blank
    simpa [blank] using List.all_eq_true.mp spaced c member
  refine ⟨fun c member => ?_, fun member => ?_, fun c member => ?_⟩
  · rw [Bool.eq_false_iff]
    intro isBreak
    rw [isSpace c member (isBlank_of_isLineBreak isBreak)] at isBreak
    exact absurd isBreak (by decide)
  · exact absurd (isSpace '\t' member rfl) (by decide)
  · exact isSpace c (List.mem_reverse.mp ((List.takeWhile_sublist _).subset member))
      (List.all_eq_true.mp List.all_takeWhile c member)

private theorem fillTabs_of_not_mem {cs : List Char} (untabbed : '\t' ∉ cs) (column : Nat) :
    fillTabs column cs = cs := by
  induction cs generalizing column with
  | nil => rfl
  | cons c rest inductionHypothesis =>
      rw [List.mem_cons, not_or] at untabbed
      rw [fillTabs, if_neg (Ne.symm untabbed.1)]
      split <;> rw [inductionHypothesis untabbed.2]

variable {cs : List Char} {width : Nat}

theorem IsPlainLine.widestLine_eq (plain : IsPlainLine cs) : widestLine cs = lineWidth cs := by
  cases cs with
  | nil => rfl
  | cons c rest => simp [widestLine, splitLines_of_isOneLine plain.oneLine (List.cons_ne_nil c rest)]

theorem IsPlainLine.cellLines_eq (plain : IsPlainLine cs) (fits : lineWidth cs ≤ width) :
    cellLines width cs = [withoutExcess width cs] := by
  rw [cellLines, fillTabs_of_not_mem plain.untabbed,
    splitAtMark_of_not_mem plain.oneLine.lineFeed_not_mem, List.flatMap_singleton, wrapped_of_le fits]

/-- The text without the blanks at its end, and as many spaces as there were. -/
theorem IsPlainLine.exists_spaces (plain : IsPlainLine cs) :
    ∃ count, cs = dropEndWhile isBlank cs ++ List.replicate count ' ' := by
  have blanks : (cs.reverse.takeWhile isBlank).reverse =
      List.replicate (cs.reverse.takeWhile isBlank).length ' ' := by
    rw [List.eq_replicate_of_mem plain.spaced, List.reverse_replicate, List.length_replicate]
  refine ⟨(cs.reverse.takeWhile isBlank).length, ?_⟩
  rw [← blanks, dropEndWhile, ← List.reverse_append, List.takeWhile_append_dropWhile,
    List.reverse_reverse]

private theorem lineWidth_replicate_space (count : Nat) :
    lineWidth (List.replicate count ' ') = count := by
  induction count with
  | zero => rfl
  | succ count inductionHypothesis =>
      have one : cellWidth ' ' = 1 := by decide
      rw [List.replicate_succ, lineWidth, inductionHypothesis, one, Nat.add_comm]

/-- Spaces at the end of a text are told from those behind it by nothing that is printed. -/
theorem padded_append_spaces {front : List Char} {count : Nat}
    (fits : lineWidth front + count ≤ width) :
    padded width (front ++ List.replicate count ' ') = padded width front := by
  have sum : count + (width - (lineWidth front + count) + 1) = width - lineWidth front + 1 := by
    omega
  rw [padded, padded, lineWidth_append, lineWidth_replicate_space, List.append_assoc,
    List.replicate_append_replicate, sum]

theorem IsPlainLine.padded_withoutExcess (plain : IsPlainLine cs) (fits : lineWidth cs ≤ width) :
    padded width (withoutExcess width cs) = padded width cs := by
  obtain ⟨count, split⟩ := plain.exists_spaces
  generalize front_eq : dropEndWhile isBlank cs = front at split
  have length : cs.length = front.length + count := by
    rw [split, List.length_append, List.length_replicate]
  have total : lineWidth cs = lineWidth front + count := by
    rw [split, lineWidth_append, lineWidth_replicate_space]
  have cut : withoutExcess width cs =
      front ++ List.replicate (count - min count (cs.length - width)) ' ' := by
    have blanks : cs.length - front.length = count := by omega
    have kept : cs.length - min count (cs.length - width) =
        front.length + (count - min count (cs.length - width)) := by
      omega
    have taken (spaces : Nat) (within : spaces ≤ count) :
        cs.take (front.length + spaces) = front ++ List.replicate spaces ' ' := by
      rw [split, List.take_length_add_append, List.take_replicate, Nat.min_eq_left within]
    rw [withoutExcess, front_eq, blanks, kept, taken _ (Nat.sub_le _ _)]
  rw [cut, padded_append_spaces (by omega)]
  conv => rhs; rw [split]
  rw [padded_append_spaces (by omega)]

/-! ## Rows -/

/-- The line shows the texts from left to right between bars, each with blanks around it. -/
def ShowsInRow (bar : String) (texts : List (List Char)) (line : String) : Prop :=
  ∃ cells : List String,
    List.Forall₂
      (fun text cell => ∃ blanks,
        cell = String.ofList (' ' :: (text ++ List.replicate (blanks + 1) ' '))) texts cells ∧
    line = bar ++ bar.intercalate cells ++ bar

variable {texts : List (List Char)} {widths : List Nat}

theorem forall₂_padded (fits : List.Forall₂ (fun text width => lineWidth text ≤ width) texts widths) :
    List.Forall₂
      (fun text cell => ∃ blanks,
        cell = String.ofList (' ' :: (text ++ List.replicate (blanks + 1) ' ')))
      texts (List.zipWith padded widths texts) := by
  induction fits with
  | nil => exact .nil
  | cons _ _ inductionHypothesis => exact .cons ⟨_, rfl⟩ inductionHypothesis

/-- Plain lines that fit are printed as one line. -/
theorem rowLines_of_isPlainLine (bar : String) (filled : texts ≠ [])
    (plain : ∀ text ∈ texts, IsPlainLine text)
    (fits : List.Forall₂ (fun text width => lineWidth text ≤ width) texts widths) :
    rowLines bar widths texts =
      [bar ++ bar.intercalate (List.zipWith padded widths texts) ++ bar] := by
  have heights : (List.zipWith cellLines widths texts).map List.length =
      List.replicate texts.length 1 := by
    clear filled
    induction fits with
    | nil => rfl
    | cons here _ inductionHypothesis =>
        obtain ⟨plainText, plainRest⟩ := List.forall_mem_cons.mp plain
        rw [List.zipWith_cons_cons, List.map_cons, plainText.cellLines_eq here,
          inductionHypothesis plainRest]
        rfl
  have cells : List.zipWith (fun width lines => padded width (lines.getD 0 [])) widths
      (List.zipWith cellLines widths texts) = List.zipWith padded widths texts := by
    clear filled heights
    induction fits with
    | nil => rfl
    | cons here _ inductionHypothesis =>
        obtain ⟨plainText, plainRest⟩ := List.forall_mem_cons.mp plain
        rw [List.zipWith_cons_cons, List.zipWith_cons_cons, List.zipWith_cons_cons,
          plainText.cellLines_eq here, inductionHypothesis plainRest, List.getD_cons_zero,
          plainText.padded_withoutExcess here]
  have positive : texts.length ≠ 0 := by simpa using filled
  rw [rowLines]
  simp only [heights, List.max?_replicate, if_neg positive, Option.getD_some]
  show [bar ++ bar.intercalate (List.zipWith _ _ _) ++ bar] = _
  rw [cells]

theorem rowLines_ne_nil (bar : String) (filled : texts ≠ []) (wide : widths ≠ []) :
    rowLines bar widths texts ≠ [] := by
  obtain ⟨text, others, rfl⟩ := List.exists_cons_of_ne_nil filled
  obtain ⟨width, more, rfl⟩ := List.exists_cons_of_ne_nil wide
  have member : (cellLines width text).length ∈
      (List.zipWith cellLines (width :: more) (text :: others)).map List.length :=
    List.mem_cons_self
  have high := @List.le_max?_getD_of_mem _ _ 0 member
  have someLine := List.length_pos_iff.mpr (cellLines_ne_nil width text)
  intro none
  rw [rowLines, List.map_eq_nil_iff, List.range_eq_nil] at none
  omega

end AddonBindings.Console
