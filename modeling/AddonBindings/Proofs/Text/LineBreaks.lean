import AddonBindings.Proofs.Text.Lines
import AddonBindings.Text.Blank

/-!
Contract: line breaks, one at a time.

Owns:
- splitting in front of and behind a line break;
- texts whose lines are ended by a carriage return and a line feed;
- the law that the lines with something in them are the same under both endings.

Does not own: joined lines, which are in `AddonBindings.Proofs.Text.Lines`.
-/

namespace AddonBindings.Text

variable {c : Char} {cs rest front back : List Char}

/-! ## Breaks -/

theorem isBlank_of_isLineBreak {c : Char} (isBreak : isLineBreak c = true) : isBlank c = true := by
  simp only [isLineBreak, isBlank, Bool.or_eq_true, Bool.and_eq_true,
    decide_eq_true_eq] at isBreak ⊢
  rcases isBreak with (((⟨low, high⟩ | ⟨low, high⟩) | nextLine) | separator) | separator
  · have low : (9 : UInt32) ≤ c.val := UInt32.le_trans (by decide) low
    simp [low, high]
  · have high : c.val ≤ (32 : UInt32) := UInt32.le_trans high (by decide)
    simp [low, high]
  · simp [nextLine]
  · simp [separator]
  · simp [separator]

private theorem splitLines_of_isLineBreak {c : Char} (isBreak : isLineBreak c = true)
    (noPair : ∀ others, c = '\r' → cs = '\n' :: others → False) :
    splitLines (c :: cs) = [] :: splitLines cs := by
  rw [splitLines, if_pos isBreak]
  exact noPair

theorem splitLines_ne_nil (filled : cs ≠ []) : splitLines cs ≠ [] := by
  unfold splitLines
  split
  · exact absurd rfl filled
  · exact List.cons_ne_nil _ _
  · split
    · exact List.cons_ne_nil _ _
    · split <;> exact List.cons_ne_nil _ _

/-- A line feed ends a line, whatever is in front of it. -/
theorem splitLines_append_lineFeed (front back : List Char) :
    splitLines (front ++ '\n' :: back) = splitLines (front ++ ['\n']) ++ splitLines back := by
  -- only `c` in front of a line that has been found already is not a line of its own
  have unbroken {c : Char} {rest : List Char} (noBreak : ¬ isLineBreak c = true)
      (inductionHypothesis : splitLines (rest ++ '\n' :: back) =
        splitLines (rest ++ ['\n']) ++ splitLines back) :
      splitLines (c :: rest ++ '\n' :: back) =
        splitLines (c :: rest ++ ['\n']) ++ splitLines back := by
    rw [List.cons_append, List.cons_append, splitLines_cons (Bool.eq_false_iff.mpr noBreak),
      splitLines_cons (Bool.eq_false_iff.mpr noBreak), inductionHypothesis]
    cases found : splitLines (rest ++ ['\n']) with
    | nil => exact absurd found (splitLines_ne_nil (by simp))
    | cons line more => rfl
  induction front using splitLines.induct with
  | case1 => rw [List.nil_append, List.nil_append, splitLines_lineFeed, splitLines_lineFeed]; rfl
  | case2 rest inductionHypothesis =>
      simp only [List.cons_append, splitLines, inductionHypothesis]
  | case3 c rest noPair isBreak inductionHypothesis =>
      by_cases isReturn : c = '\r' ∧ rest = []
      · obtain ⟨rfl, rfl⟩ := isReturn
        simp [splitLines]
      · have noPairAppended (more : List Char) :
            ∀ others, c = '\r' → rest ++ '\n' :: more = '\n' :: others → False := by
          intro others isReturn' same
          cases rest with
          | nil => exact isReturn ⟨isReturn', rfl⟩
          | cons next others =>
              cases same
              exact noPair _ isReturn' rfl
        rw [List.cons_append, List.cons_append,
          splitLines_of_isLineBreak isBreak (noPairAppended _),
          splitLines_of_isLineBreak isBreak (noPairAppended _), inductionHypothesis]
        rfl
  | case4 c rest noPair noBreak isEmpty inductionHypothesis =>
      exact unbroken noBreak inductionHypothesis
  | case5 c rest noPair noBreak first more split inductionHypothesis =>
      exact unbroken noBreak inductionHypothesis

/-! ## Returns -/

/-- The characters with a carriage return in front of each line feed. -/
def withReturns (cs : List Char) : List Char :=
  cs.flatMap fun c => if c = '\n' then ['\r', '\n'] else [c]

theorem withReturns_lineFeed (rest : List Char) :
    withReturns ('\n' :: rest) = '\r' :: '\n' :: withReturns rest := rfl

theorem withReturns_cons (noFeed : c ≠ '\n') (rest : List Char) :
    withReturns (c :: rest) = c :: withReturns rest := by
  rw [withReturns, List.flatMap_cons, if_neg noFeed]
  rfl

theorem withReturns_append (front back : List Char) :
    withReturns (front ++ back) = withReturns front ++ withReturns back :=
  List.flatMap_append

theorem withReturns_of_not_mem (noFeed : '\n' ∉ cs) : withReturns cs = cs := by
  induction cs with
  | nil => rfl
  | cons c rest inductionHypothesis =>
      rw [List.mem_cons, not_or] at noFeed
      rw [withReturns_cons (Ne.symm noFeed.1), inductionHypothesis noFeed.2]

/-- No line feed stands at the start, since a return stands in front of it. -/
theorem head?_withReturns (cs : List Char) : (withReturns cs).head? ≠ some '\n' := by
  cases cs with
  | nil => rintro ⟨⟩
  | cons c rest =>
      by_cases isFeed : c = '\n'
      · rw [isFeed, withReturns_lineFeed]
        simp
      · rw [withReturns_cons isFeed]
        simpa using isFeed

theorem count_withReturns (cs : List Char) : (withReturns cs).count '\n' = cs.count '\n' := by
  induction cs with
  | nil => rfl
  | cons c rest inductionHypothesis =>
      by_cases isFeed : c = '\n'
      · rw [isFeed, withReturns_lineFeed, List.count_cons_of_ne (by decide), List.count_cons_self,
          List.count_cons_self, inductionHypothesis]
      · rw [withReturns_cons isFeed, List.count_cons_of_ne isFeed, List.count_cons_of_ne isFeed,
          inductionHypothesis]

theorem length_withReturns (cs : List Char) :
    (withReturns cs).length = cs.length + cs.count '\n' := by
  induction cs with
  | nil => rfl
  | cons c rest inductionHypothesis =>
      by_cases isFeed : c = '\n'
      · rw [isFeed, withReturns_lineFeed, List.count_cons_self, List.length_cons, List.length_cons,
          List.length_cons, inductionHypothesis]
        omega
      · rw [withReturns_cons isFeed, List.count_cons_of_ne isFeed, List.length_cons,
          List.length_cons, inductionHypothesis]
        omega

private theorem withReturns_ne_lineFeed_cons (cs rest : List Char) :
    withReturns cs ≠ '\n' :: rest := by
  intro same
  exact head?_withReturns cs (congrArg List.head? same)

/-- Any other character in front stood there before. -/
theorem exists_of_withReturns_eq_cons (noReturn : c ≠ '\r') (same : withReturns cs = c :: rest) :
    ∃ others, cs = c :: others ∧ rest = withReturns others := by
  cases cs with
  | nil => cases same
  | cons d others =>
      by_cases isFeed : d = '\n'
      · rw [isFeed, withReturns_lineFeed] at same
        exact absurd (List.cons_eq_cons.mp same).1.symm noReturn
      · rw [withReturns_cons isFeed] at same
        obtain ⟨rfl, rfl⟩ := List.cons_eq_cons.mp same
        exact ⟨others, rfl, rfl⟩

theorem head?_of_head?_withReturns (noReturn : c ≠ '\r')
    (isHead : (withReturns cs).head? = some c) : cs.head? = some c := by
  cases same : withReturns cs with
  | nil =>
      rw [same] at isHead
      cases isHead
  | cons d rest =>
      rw [same] at isHead
      cases isHead
      obtain ⟨others, rfl, -⟩ := exists_of_withReturns_eq_cons noReturn same
      rfl

theorem withReturns_injective : Function.Injective withReturns := by
  intro first second same
  induction first generalizing second with
  | nil =>
      cases second with
      | nil => rfl
      | cons d others =>
          by_cases isFeed : d = '\n'
          · rw [isFeed, withReturns_lineFeed] at same
            cases same
          · rw [withReturns_cons isFeed] at same
            cases same
  | cons c rest inductionHypothesis =>
      cases second with
      | nil =>
          by_cases isFeed : c = '\n'
          · rw [isFeed, withReturns_lineFeed] at same
            cases same
          · rw [withReturns_cons isFeed] at same
            cases same
      | cons d others =>
          by_cases isFeed : c = '\n'
          · by_cases otherIsFeed : d = '\n'
            · rw [isFeed, otherIsFeed, withReturns_lineFeed, withReturns_lineFeed] at same
              rw [isFeed, otherIsFeed, inductionHypothesis (List.tail_eq_of_cons_eq
                (List.tail_eq_of_cons_eq same))]
            · rw [isFeed, withReturns_lineFeed, withReturns_cons otherIsFeed] at same
              exact absurd (List.tail_eq_of_cons_eq same).symm (withReturns_ne_lineFeed_cons _ _)
          · by_cases otherIsFeed : d = '\n'
            · rw [otherIsFeed, withReturns_lineFeed, withReturns_cons isFeed] at same
              exact absurd (List.tail_eq_of_cons_eq same) (withReturns_ne_lineFeed_cons _ _)
            · rw [withReturns_cons isFeed, withReturns_cons otherIsFeed] at same
              obtain ⟨rfl, sameRest⟩ := List.cons_eq_cons.mp same
              rw [inductionHypothesis sameRest]

/-- A class to which a return belongs iff a line feed does takes the same front. -/
theorem dropWhile_withReturns {keep : Char → Bool} (same : keep '\r' = keep '\n')
    (cs : List Char) : (withReturns cs).dropWhile keep = withReturns (cs.dropWhile keep) := by
  induction cs with
  | nil => rfl
  | cons c rest inductionHypothesis =>
      by_cases isFeed : c = '\n'
      · rw [isFeed, withReturns_lineFeed]
        cases kept : keep '\n' with
        | true =>
            rw [List.dropWhile_cons_of_pos (same.trans kept), List.dropWhile_cons_of_pos kept,
              List.dropWhile_cons_of_pos kept, inductionHypothesis]
        | false =>
            rw [List.dropWhile_cons_of_neg (by simp [same, kept]),
              List.dropWhile_cons_of_neg (by simp [kept]), withReturns_lineFeed]
      · rw [withReturns_cons isFeed]
        cases kept : keep c with
        | true =>
            rw [List.dropWhile_cons_of_pos kept, List.dropWhile_cons_of_pos kept,
              inductionHypothesis]
        | false =>
            rw [List.dropWhile_cons_of_neg (by simp [kept]),
              List.dropWhile_cons_of_neg (by simp [kept]), withReturns_cons isFeed]

/-- A class without line ends takes the same front. -/
theorem takeWhile_withReturns {keep : Char → Bool} (noFeed : keep '\n' = false)
    (noReturn : keep '\r' = false) (cs : List Char) :
    (withReturns cs).takeWhile keep = cs.takeWhile keep := by
  induction cs with
  | nil => rfl
  | cons c rest inductionHypothesis =>
      by_cases isFeed : c = '\n'
      · rw [isFeed, withReturns_lineFeed, List.takeWhile_cons_of_neg (by simp [noReturn]),
          List.takeWhile_cons_of_neg (by simp [noFeed])]
      · rw [withReturns_cons isFeed, List.takeWhile_cons, List.takeWhile_cons, inductionHypothesis]

/-- What holds no line end is in front with returns iff it is without. -/
theorem isPrefixOf_withReturns {mark : List Char} (noFeed : '\n' ∉ mark) (noReturn : '\r' ∉ mark)
    (cs : List Char) : mark.isPrefixOf (withReturns cs) = mark.isPrefixOf cs := by
  induction mark generalizing cs with
  | nil => rfl
  | cons first more inductionHypothesis =>
      rw [List.mem_cons, not_or] at noFeed noReturn
      cases cs with
      | nil => rfl
      | cons c rest =>
          by_cases isFeed : c = '\n'
          · rw [isFeed, withReturns_lineFeed, List.isPrefixOf, List.isPrefixOf,
              beq_eq_false_iff_ne.mpr (Ne.symm noFeed.1),
              beq_eq_false_iff_ne.mpr (Ne.symm noReturn.1)]
            rfl
          · rw [withReturns_cons isFeed, List.isPrefixOf, List.isPrefixOf,
              inductionHypothesis noFeed.2 noReturn.2]

/-! ## Lines with something in them -/

def filledLines (lines : List (List Char)) : List (List Char) :=
  lines.filter fun line => !line.isEmpty

theorem filledLines_nil_cons (lines : List (List Char)) :
    filledLines ([] :: lines) = filledLines lines := rfl

/-- The lines are the same, but for empty ones behind the first. -/
structure HaveSameFilledLines (lines others : List (List Char)) : Prop where
  first : lines.head? = others.head?
  later : filledLines lines.tail = filledLines others.tail

theorem HaveSameFilledLines.eq {lines others : List (List Char)}
    (same : HaveSameFilledLines lines others) : filledLines lines = filledLines others := by
  obtain ⟨first, later⟩ := same
  cases lines with
  | nil =>
      cases others with
      | nil => rfl
      | cons other more => cases first
  | cons line rest =>
      cases others with
      | nil => cases first
      | cons other more =>
          cases first
          rw [List.tail_cons, List.tail_cons] at later
          unfold filledLines at later ⊢
          rw [List.filter_cons, List.filter_cons, later]

/-- The returns add nothing but empty lines, and none of them in front. -/
theorem haveSameFilledLines_withReturns (cs : List Char) :
    HaveSameFilledLines (splitLines (withReturns cs)) (splitLines cs) := by
  -- a character that is no break goes to the front of the first line
  have unbroken {c : Char} {rest : List Char} (noBreak : ¬ isLineBreak c = true)
      (inductionHypothesis :
        HaveSameFilledLines (splitLines (withReturns rest)) (splitLines rest)) :
      HaveSameFilledLines (splitLines (withReturns (c :: rest))) (splitLines (c :: rest)) := by
    have noFeed : c ≠ '\n' := by
      rintro rfl
      exact noBreak rfl
    rw [withReturns_cons noFeed, splitLines_cons (Bool.eq_false_iff.mpr noBreak),
      splitLines_cons (Bool.eq_false_iff.mpr noBreak)]
    obtain ⟨first, later⟩ := inductionHypothesis
    cases found : splitLines (withReturns rest) with
    | nil =>
        rw [found] at first later
        cases others : splitLines rest with
        | nil => exact ⟨rfl, rfl⟩
        | cons other more =>
            rw [others] at first
            cases first
    | cons line lines =>
        rw [found] at first later
        cases others : splitLines rest with
        | nil =>
            rw [others] at first
            cases first
        | cons other more =>
            rw [others] at first later
            cases first
            exact ⟨rfl, later⟩
  induction cs using splitLines.induct with
  | case1 => exact ⟨rfl, rfl⟩
  | case2 rest inductionHypothesis =>
      have noPair : ∀ others, '\r' = '\r' →
          '\r' :: '\n' :: withReturns rest = '\n' :: others → False := by
        rintro _ - ⟨⟩
      rw [withReturns_cons (by decide), withReturns_lineFeed, splitLines_of_isLineBreak rfl noPair,
        splitLines, splitLines]
      exact ⟨rfl, inductionHypothesis.eq⟩
  | case3 c rest noPair isBreak inductionHypothesis =>
      rw [splitLines_of_isLineBreak isBreak noPair]
      by_cases isFeed : c = '\n'
      · rw [isFeed, withReturns_lineFeed, splitLines]
        exact ⟨rfl, inductionHypothesis.eq⟩
      · rw [withReturns_cons isFeed, splitLines_of_isLineBreak isBreak
          fun others _ => withReturns_ne_lineFeed_cons rest others]
        exact ⟨rfl, inductionHypothesis.eq⟩
  | case4 c rest noPair noBreak isEmpty inductionHypothesis =>
      exact unbroken noBreak inductionHypothesis
  | case5 c rest noPair noBreak first more split inductionHypothesis =>
      exact unbroken noBreak inductionHypothesis

theorem filledLines_splitLines_withReturns (cs : List Char) :
    filledLines (splitLines (withReturns cs)) = filledLines (splitLines cs) :=
  (haveSameFilledLines_withReturns cs).eq

end AddonBindings.Text
