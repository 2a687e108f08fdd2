import AddonBindings.Text.Lines

/-!
Contract: splitting undoes joining.

Owns:
- the lines and the parts of joined texts;
- that no line holds a line break, and no part the mark at which a text is split.

Does not own: that joining undoes splitting at a mark, which is in `AddonBindings.Text.Lines`.
-/

namespace AddonBindings.Text

variable {mark : Char} {part line rest : List Char} {parts lines : List (List Char)}

/-! ## Parts -/

theorem splitAtMark_of_not_mem (free : mark ∉ part) : splitAtMark mark part = [part] := by
  induction part with
  | nil => rfl
  | cons c others inductionHypothesis =>
      rw [List.mem_cons, not_or] at free
      rw [splitAtMark, if_neg (Ne.symm free.1), inductionHypothesis free.2]

private theorem splitAtMark_append (free : mark ∉ part) (rest : List Char) :
    splitAtMark mark (part ++ mark :: rest) = part :: splitAtMark mark rest := by
  induction part with
  | nil => rw [List.nil_append, splitAtMark, if_pos rfl]
  | cons c others inductionHypothesis =>
      rw [List.mem_cons, not_or] at free
      rw [List.cons_append, splitAtMark, if_neg (Ne.symm free.1), inductionHypothesis free.2]

/-- Parts without the mark are found again. -/
theorem splitAtMark_intercalate (filled : parts ≠ []) (free : ∀ part ∈ parts, mark ∉ part) :
    splitAtMark mark ([mark].intercalate parts) = parts := by
  induction parts with
  | nil => exact absurd rfl filled
  | cons part others inductionHypothesis =>
      obtain ⟨partFree, othersFree⟩ := List.forall_mem_cons.mp free
      cases others with
      | nil =>
          rw [List.intercalate_singleton]
          exact splitAtMark_of_not_mem partFree
      | cons next more =>
          rw [List.intercalate_cons_cons, List.append_assoc, List.singleton_append,
            splitAtMark_append partFree, inductionHypothesis (List.cons_ne_nil _ _) othersFree]

theorem not_mem_of_mem_splitAtMark {cs : List Char} (member : part ∈ splitAtMark mark cs) :
    mark ∉ part := by
  induction cs generalizing part with
  | nil =>
      rw [List.mem_singleton.mp member]
      exact List.not_mem_nil
  | cons c rest inductionHypothesis =>
      rw [splitAtMark] at member
      split at member
      · rcases List.mem_cons.mp member with rfl | inRest
        · exact List.not_mem_nil
        · exact inductionHypothesis inRest
      · rename_i noMark
        split at member
        · rename_i noParts
          exact absurd noParts (splitAtMark_ne_nil mark rest)
        · rename_i first more isSplit
          rw [isSplit] at inductionHypothesis
          rcases List.mem_cons.mp member with rfl | inMore
          · have free := inductionHypothesis List.mem_cons_self
            rw [List.mem_cons, not_or]
            exact ⟨Ne.symm noMark, free⟩
          · exact inductionHypothesis (List.mem_cons_of_mem first inMore)

theorem mem_intercalate_iff {c : Char} (noMark : c ≠ mark) :
    c ∈ [mark].intercalate parts ↔ ∃ part ∈ parts, c ∈ part := by
  induction parts with
  | nil => simp
  | cons first rest inductionHypothesis =>
      cases rest with
      | nil => simp
      | cons second others =>
          rw [List.intercalate_cons_cons, List.mem_append, List.mem_append, inductionHypothesis]
          simp [noMark]

/-! ## Lines -/

/-- The characters stand on one line. -/
def IsOneLine (line : List Char) : Prop :=
  ∀ c ∈ line, isLineBreak c = false

instance : Decidable (IsOneLine line) :=
  List.decidableBAll (fun c => isLineBreak c = false) line

theorem splitLines_cons {c : Char} (noBreak : isLineBreak c = false) (rest : List Char) :
    splitLines (c :: rest) =
      match splitLines rest with
      | [] => [[c]]
      | line :: more => (c :: line) :: more := by
  rw [splitLines, noBreak]
  · rfl
  · rintro _ rfl
    cases noBreak

theorem splitLines_lineFeed (rest : List Char) :
    splitLines ('\n' :: rest) = [] :: splitLines rest := by
  rw [splitLines]
  · rfl
  · rintro _ ⟨⟩

private theorem splitLines_append (oneLine : IsOneLine line) (rest : List Char) :
    splitLines (line ++ '\n' :: rest) = line :: splitLines rest := by
  induction line with
  | nil => exact splitLines_lineFeed rest
  | cons c others inductionHypothesis =>
      obtain ⟨noBreak, othersOneLine⟩ := List.forall_mem_cons.mp oneLine
      rw [List.cons_append, splitLines_cons noBreak, inductionHypothesis othersOneLine]

theorem splitLines_of_isOneLine (oneLine : IsOneLine line) (filled : line ≠ []) :
    splitLines line = [line] := by
  induction line with
  | nil => exact absurd rfl filled
  | cons c others inductionHypothesis =>
      obtain ⟨noBreak, othersOneLine⟩ := List.forall_mem_cons.mp oneLine
      rw [splitLines_cons noBreak]
      cases others with
      | nil => rfl
      | cons next more => rw [inductionHypothesis othersOneLine (List.cons_ne_nil _ _)]

/-- Lines that are ended by line feeds are found again, with what follows them. -/
theorem splitLines_flatMap (oneLine : ∀ line ∈ lines, IsOneLine line) (rest : List Char) :
    splitLines (lines.flatMap (· ++ ['\n']) ++ rest) = lines ++ splitLines rest := by
  induction lines with
  | nil => rfl
  | cons line others inductionHypothesis =>
      obtain ⟨lineOne, othersOne⟩ := List.forall_mem_cons.mp oneLine
      rw [List.flatMap_cons, List.append_assoc, List.append_assoc, List.singleton_append,
        splitLines_append lineOne, inductionHypothesis othersOne, List.cons_append]

theorem isOneLine_of_mem_splitLines {cs : List Char} (member : line ∈ splitLines cs) :
    IsOneLine line := by
  induction cs using splitLines.induct generalizing line with
  | case1 => cases member
  | case2 others inductionHypothesis =>
      rw [splitLines] at member
      rcases List.mem_cons.mp member with rfl | inRest
      · exact List.forall_mem_nil _
      · exact inductionHypothesis inRest
  | case3 c others noPair isBreak inductionHypothesis =>
      rw [splitLines, if_pos isBreak] at member
      · rcases List.mem_cons.mp member with rfl | inRest
        · exact List.forall_mem_nil _
        · exact inductionHypothesis inRest
      · exact noPair
  | case4 c others noPair noBreak isEmpty inductionHypothesis =>
      rw [splitLines_cons (Bool.eq_false_iff.mpr noBreak), isEmpty, List.mem_singleton] at member
      rw [member]
      intro d isChar
      rw [List.mem_singleton.mp isChar]
      exact Bool.eq_false_iff.mpr noBreak
  | case5 c others noPair noBreak first more split inductionHypothesis =>
      rw [splitLines_cons (Bool.eq_false_iff.mpr noBreak), split] at member
      rw [split] at inductionHypothesis
      rcases List.mem_cons.mp member with rfl | inMore
      · exact List.forall_mem_cons.mpr
          ⟨Bool.eq_false_iff.mpr noBreak, inductionHypothesis List.mem_cons_self⟩
      · exact inductionHypothesis (List.mem_cons_of_mem _ inMore)

theorem IsOneLine.lineFeed_not_mem (oneLine : IsOneLine line) : '\n' ∉ line := by
  intro isBreak
  cases oneLine '\n' isBreak

end AddonBindings.Text
