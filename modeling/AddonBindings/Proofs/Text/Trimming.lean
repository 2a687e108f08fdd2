import AddonBindings.Text.Blank

/-!
Contract: trimming told without the passes that carry it out.

Owns:
- fronts that a class of characters takes in full, up to a character outside the class;
- texts that neither start nor end in a blank;
- the law that trimming takes blanks off both ends and leaves such a text.

Does not own: which characters are blank, which is in `AddonBindings.Text.Blank`.
-/

namespace AddonBindings.Text

variable {cs front back : List Char}

/-! ## Fronts of a class -/

theorem dropWhile_append_of_head? {keep : Char → Bool} (inside : ∀ c ∈ front, keep c = true)
    (ends : ∀ c ∈ back.head?, keep c = false) : (front ++ back).dropWhile keep = back := by
  rw [List.dropWhile_append_of_pos inside]
  cases back with
  | nil => rfl
  | cons first others => exact List.dropWhile_cons_of_neg (by simp [ends first rfl])

theorem takeWhile_append_of_head? {keep : Char → Bool} (inside : ∀ c ∈ front, keep c = true)
    (ends : ∀ c ∈ back.head?, keep c = false) : (front ++ back).takeWhile keep = front := by
  rw [List.takeWhile_append_of_pos inside]
  cases back with
  | nil => simp
  | cons first others =>
      rw [List.takeWhile_cons_of_neg (by simp [ends first rfl]), List.append_nil]

/-! ## Trimmed texts -/

def AreBlanks (cs : List Char) : Prop :=
  ∀ c ∈ cs, isBlank c = true

instance : Decidable (AreBlanks cs) :=
  List.decidableBAll (fun c => isBlank c = true) cs

/-- The text neither starts nor ends in a blank. -/
structure IsTrimmed (cs : List Char) : Prop where
  start : ∀ c ∈ cs.head?, isBlank c = false
  stop : ∀ c ∈ cs.getLast?, isBlank c = false

theorem exists_dropWhile_append (cs : List Char) :
    ∃ front, AreBlanks front ∧ cs = front ++ cs.dropWhile isBlank :=
  ⟨cs.takeWhile isBlank, fun _ member => List.all_eq_true.mp List.all_takeWhile _ member,
    List.takeWhile_append_dropWhile.symm⟩

/-- Blanks are only taken off behind a first character that is none. -/
theorem dropEndWhile_cons {drop : Char → Bool} {first : Char} (kept : drop first = false)
    (cs : List Char) : dropEndWhile drop (first :: cs) = first :: dropEndWhile drop cs := by
  rw [dropEndWhile, List.reverse_cons, List.dropWhile_append]
  split
  · rename_i isEmpty
    rw [List.isEmpty_iff] at isEmpty
    rw [dropEndWhile, isEmpty]
    simp [kept]
  · rw [List.reverse_append, dropEndWhile]
    rfl

theorem exists_dropEndWhile_append (cs : List Char) :
    ∃ back, AreBlanks back ∧ cs = dropEndWhile isBlank cs ++ back := by
  obtain ⟨reversed, blank, split⟩ := exists_dropWhile_append cs.reverse
  refine ⟨reversed.reverse, fun c member => blank c (List.mem_reverse.mp member), ?_⟩
  rw [dropEndWhile, ← List.reverse_append, ← split, List.reverse_reverse]

/-- Trimming takes blanks off both ends. -/
theorem exists_trimChars_append (cs : List Char) :
    ∃ front back, AreBlanks front ∧ AreBlanks back ∧ cs = front ++ (trimChars cs ++ back) := by
  obtain ⟨front, frontBlank, isFront⟩ := exists_dropWhile_append cs
  obtain ⟨back, backBlank, isBack⟩ := exists_dropEndWhile_append (cs.dropWhile isBlank)
  refine ⟨front, back, frontBlank, backBlank, ?_⟩
  rw [trimChars, ← isBack]
  exact isFront

private theorem head?_dropWhile_isBlank (cs : List Char) :
    ∀ c ∈ (cs.dropWhile isBlank).head?, isBlank c = false := by
  intro c isHead
  have dropped := List.head?_dropWhile_not isBlank cs
  rw [Option.mem_def.mp isHead] at dropped
  exact dropped

/-- Nothing more can be taken off. -/
theorem isTrimmed_trimChars (cs : List Char) : IsTrimmed (trimChars cs) where
  start c isHead := by
    obtain ⟨back, -, split⟩ := exists_dropEndWhile_append (cs.dropWhile isBlank)
    apply head?_dropWhile_isBlank cs c
    rw [split, List.head?_append, ← trimChars, Option.mem_def.mp isHead]
    rfl
  stop c isLast := by
    rw [trimChars, dropEndWhile, List.getLast?_reverse] at isLast
    exact head?_dropWhile_isBlank _ c isLast

theorem IsTrimmed.trimChars_eq (trimmed : IsTrimmed cs) : trimChars cs = cs :=
  trimChars_eq_self trimmed.start trimmed.stop

theorem trimChars_eq_self_iff : trimChars cs = cs ↔ IsTrimmed cs := by
  constructor
  · intro same
    rw [← same]
    exact isTrimmed_trimChars cs
  · exact IsTrimmed.trimChars_eq

/-- Trimming twice is trimming once. -/
theorem trimChars_trimChars (cs : List Char) : trimChars (trimChars cs) = trimChars cs :=
  (isTrimmed_trimChars cs).trimChars_eq

/-- A text between blanks is trimmed to itself. -/
theorem trimChars_between (frontBlank : AreBlanks front) (trimmed : IsTrimmed cs)
    (filled : cs ≠ []) (backBlank : AreBlanks back) : trimChars (front ++ (cs ++ back)) = cs := by
  have start : ∀ c ∈ (cs ++ back).head?, isBlank c = false := by
    intro c isHead
    cases cs with
    | nil => exact absurd rfl filled
    | cons first others => exact trimmed.start c isHead
  have stop : ∀ c ∈ cs.reverse.head?, isBlank c = false := by
    intro c isHead
    rw [List.head?_reverse] at isHead
    exact trimmed.stop c isHead
  have reversedBlank : ∀ c ∈ back.reverse, isBlank c = true := by
    intro c member
    exact backBlank c (List.mem_reverse.mp member)
  rw [trimChars, dropEndWhile, dropWhile_append_of_head? frontBlank start, List.reverse_append,
    dropWhile_append_of_head? reversedBlank stop, List.reverse_reverse]

private theorem trimChars_of_areBlanks (blank : AreBlanks cs) : trimChars cs = [] := by
  have dropped : (cs ++ []).dropWhile isBlank = [] :=
    dropWhile_append_of_head? blank (by rintro _ ⟨⟩)
  rw [List.append_nil] at dropped
  rw [trimChars, dropped, dropEndWhile_nil]

/-- Blanks in front do not matter. -/
theorem trimChars_append_left (blank : AreBlanks front) (cs : List Char) :
    trimChars (front ++ cs) = trimChars cs := by
  rw [trimChars, List.dropWhile_append_of_pos blank, ← trimChars]

/-- Blanks behind do not matter. -/
theorem trimChars_append_right (blank : AreBlanks back) (cs : List Char) :
    trimChars (cs ++ back) = trimChars cs := by
  obtain ⟨front, behind, frontBlank, behindBlank, split⟩ := exists_trimChars_append cs
  have allBlank : AreBlanks (behind ++ back) := List.forall_mem_append.mpr ⟨behindBlank, blank⟩
  by_cases filled : trimChars cs = []
  · rw [filled]
    apply trimChars_of_areBlanks
    rw [split, filled]
    exact List.forall_mem_append.mpr
      ⟨List.forall_mem_append.mpr ⟨frontBlank, behindBlank⟩, blank⟩
  · have whole : cs ++ back = front ++ (trimChars cs ++ (behind ++ back)) := by
      rw [← List.append_assoc, ← List.append_assoc, List.append_assoc front, ← split]
    rw [whole, trimChars_between frontBlank (isTrimmed_trimChars cs) filled allBlank]

theorem trimChars_dropEndWhile (cs : List Char) :
    trimChars (dropEndWhile isBlank cs) = trimChars cs := by
  obtain ⟨back, blank, split⟩ := exists_dropEndWhile_append cs
  have same := trimChars_append_right blank (dropEndWhile isBlank cs)
  rw [← split] at same
  exact same.symm

theorem mem_of_mem_trimChars {c : Char} (member : c ∈ trimChars cs) : c ∈ cs := by
  obtain ⟨front, back, -, -, split⟩ := exists_trimChars_append cs
  rw [split]
  exact List.mem_append_right _ (List.mem_append_left _ member)

/-- Whatever stands between a first character and a trimmed end, the whole is trimmed. -/
theorem IsTrimmed.cons {first : Char} (trimmed : IsTrimmed back) (noBlank : isBlank first = false)
    (filled : back ≠ []) (middle : List Char) : IsTrimmed (first :: (middle ++ back)) where
  start c isHead := by
    cases isHead
    exact noBlank
  stop c isLast := by
    have same : (first :: (middle ++ back)).getLast? = back.getLast? := by
      rw [← List.cons_append, List.getLast?_append, List.getLast?_eq_some_getLast filled]
      rfl
    exact trimmed.stop c (same ▸ isLast)

end AddonBindings.Text
