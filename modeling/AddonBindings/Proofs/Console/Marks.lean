import AddonBindings.Proofs.Console.PlainText
import AddonBindings.Proofs.Text.Word

/-!
Contract: marks in a text, and what the console takes them for.

Owns:
- marks, the characters that mean something to the console, and their number;
- that emoji hold no marks and no line feeds;
- the names of the emoji codes in a text, read from the left;
- the laws that a replaced code and a backslash that is left out take marks away, and that
  nothing else changes in a text.

Does not own: the tags of markup, which are in `AddonBindings.Proofs.Console.Escaping`.
-/

namespace AddonBindings.Console

/-- A character that means something to the console. -/
def isMark (c : Char) : Bool :=
  !isPlain c

/-- The number of marks in a text. -/
def marks (cs : List Char) : Nat :=
  cs.countP isMark

@[simp] theorem marks_nil : marks [] = 0 := rfl

@[simp] theorem marks_cons (c : Char) (cs : List Char) :
    marks (c :: cs) = marks cs + if isMark c then 1 else 0 :=
  List.countP_cons

@[simp] theorem marks_append (front back : List Char) :
    marks (front ++ back) = marks front + marks back :=
  List.countP_append

private theorem marks_eq_zero {cs : List Char} (plain : ∀ c ∈ cs, isPlain c = true) :
    marks cs = 0 := by
  rw [marks, List.countP_eq_zero]
  intro c member
  simp [isMark, plain c member]

/-! ## Emoji -/

/-- A character that is printed as it is and does not end the line. -/
def isInLine (c : Char) : Bool :=
  isPlain c && c != '\n'

theorem isPlain_of_isInLine {c : Char} (inLine : isInLine c = true) : isPlain c = true :=
  (Bool.and_eq_true_iff.mp inLine).1

private theorem isInLine_of_le {c : Char} (high : 128 ≤ c.toNat) : isInLine c = true := by
  have low : ('\n' :: markedCharacters).all (fun mark => mark.toNat < 128) = true := by decide
  have differs (mark : Char) (member : mark ∈ '\n' :: markedCharacters) : c ≠ mark := by
    rintro rfl
    have below := of_decide_eq_true (List.all_eq_true.mp low c member)
    omega
  rw [isInLine, Bool.and_eq_true, isPlain_iff, bne_iff_ne]
  exact ⟨fun marked => differs c (List.mem_cons_of_mem _ marked) rfl,
    differs '\n' List.mem_cons_self⟩

private theorem isInLine_ofNat {code : Nat} (high : 128 ≤ code) :
    isInLine (Char.ofNat code) = true := by
  by_cases valid : code.isValidChar
  · have number : (Char.ofNat code).toNat = code := by
      rw [Char.ofNat, dif_pos valid]
      rfl
    exact isInLine_of_le (by rwa [number])
  · rw [Char.ofNat, dif_neg valid]
    decide

private theorem le_of_mem_symbolNames : ∀ entry ∈ symbolNames,
    (128 ≤ entry.2.toNat : Bool) = true :=
  List.all_eq_true.mp (by decide +kernel)

/-- Every code stands for a character that is printed in its line. -/
def areInLine (codes : List Nat) : Bool :=
  codes.all fun code => 128 ≤ code || isInLine (Char.ofNat code)

private theorem areInLine_of_mem_sequenceNames :
    ∀ entry ∈ sequenceNames, areInLine entry.2 = true :=
  List.all_eq_true.mp (by decide +kernel)

private theorem areInLine_of_mem_peopleNames : ∀ entry ∈ peopleNames, areInLine entry.2 = true :=
  List.all_eq_true.mp (by decide +kernel)

private theorem areInLine_of_mem_skinTones : ∀ entry ∈ skinTones, areInLine [entry.2] = true := by
  decide

private theorem areInLine_cons {code : Nat} {codes : List Nat} :
    areInLine (code :: codes) = true ↔ areInLine [code] = true ∧ areInLine codes = true := by
  simp [areInLine]

private theorem areInLine_toned {tone : Nat} {codes : List Nat}
    (toneInLine : areInLine [tone] = true)
    (inLine : areInLine codes = true) : areInLine (toned tone codes) = true := by
  unfold toned
  split
  next first rest =>
    obtain ⟨isFirst, others⟩ := areInLine_cons.mp inLine
    exact areInLine_cons.mpr ⟨isFirst, areInLine_cons.mpr ⟨toneInLine, (areInLine_cons.mp others).2⟩⟩
  next first rest _ =>
    obtain ⟨isFirst, others⟩ := areInLine_cons.mp inLine
    exact areInLine_cons.mpr ⟨isFirst, areInLine_cons.mpr ⟨toneInLine, others⟩⟩
  next => rfl

private theorem areInLine_of_person? {name : List Char} {codes : List Nat}
    (found : person? name = some codes) : areInLine codes = true := by
  unfold person? at found
  split at found
  next known =>
    cases found
    exact areInLine_of_mem_peopleNames _ (Text.mem_of_lookup_eq_some known)
  next =>
    obtain ⟨⟨suffix, tone⟩, isTone, taken⟩ := List.exists_of_findSome?_eq_some found
    obtain ⟨bare, -, known⟩ := Option.bind_eq_some_iff.mp taken
    obtain ⟨untoned, lookedUp, same⟩ := Option.bind_eq_some_iff.mp known
    cases same
    exact areInLine_toned (areInLine_of_mem_skinTones _ isTone)
      (areInLine_of_mem_peopleNames _ (Text.mem_of_lookup_eq_some lookedUp))

private theorem isInLine_flagLetter (letter : Char) : isInLine (flagLetter letter) = true :=
  isInLine_ofNat (by omega)

private theorem isInLine_of_mem_map {codes : List Nat} (inLine : areInLine codes = true) :
    ∀ c ∈ codes.map Char.ofNat, isInLine c = true := by
  intro c member
  obtain ⟨code, listed, rfl⟩ := List.mem_map.mp member
  rcases Bool.or_eq_true_iff.mp (List.all_eq_true.mp inLine code listed) with high | here
  · exact isInLine_ofNat (of_decide_eq_true high)
  · exact here

/-- Emoji are printed as they are. -/
theorem isInLine_of_emoji? {name characters : List Char} (found : emoji? name = some characters) :
    ∀ c ∈ characters, isInLine c = true := by
  unfold emoji? at found
  split at found
  next character isSymbol =>
    cases found
    have high := le_of_mem_symbolNames _ (Text.mem_of_lookup_eq_some isSymbol)
    exact List.forall_mem_singleton.mpr (isInLine_of_le (of_decide_eq_true high))
  next =>
    split at found
    next isSequence =>
      cases found
      exact isInLine_of_mem_map
        (areInLine_of_mem_sequenceNames _ (Text.mem_of_lookup_eq_some isSequence))
    next =>
      split at found
      next isPerson =>
        cases found
        exact isInLine_of_mem_map (areInLine_of_person? isPerson)
      next =>
        obtain ⟨⟨first, second⟩, -, same⟩ := Option.bind_eq_some_iff.mp found
        cases same
        exact List.forall_mem_cons.mpr
          ⟨isInLine_flagLetter first, List.forall_mem_singleton.mpr (isInLine_flagLetter second)⟩

private theorem isInLine_of_markedEmoji? {name characters : List Char}
    (found : markedEmoji? name = some characters) : ∀ c ∈ characters, isInLine c = true := by
  have withMark (mark : Char) (marked : isInLine mark = true) {bare : List Char}
      (known : (emoji? bare).map (· ++ [mark]) = some characters) :
      ∀ c ∈ characters, isInLine c = true := by
    obtain ⟨unmarked, here, rfl⟩ := Option.map_eq_some_iff.mp known
    exact List.forall_mem_append.mpr
      ⟨isInLine_of_emoji? here, List.forall_mem_singleton.mpr marked⟩
  unfold markedEmoji? at found
  dsimp only at found
  split at found
  · exact withMark '\uFE0F' (by decide) found
  · exact withMark '\uFE0E' (by decide) found
  · exact isInLine_of_emoji? found

/-! ## Emoji codes -/

/-- The names of the codes in a text.  They are read from the left, and two colons with a
name between them belong to no other code. -/
def codeNames : List Char → List (List Char)
  | [] => []
  | c :: rest =>
      if c = ':' then
        match found : untilColon? rest with
        | none => codeNames rest
        | some (name, after) =>
            have : after.length < rest.length := length_of_untilColon? found
            name :: codeNames after
      else codeNames rest
termination_by cs => cs.length

/-- No code in the text is an emoji. -/
def IsCodeless (cs : List Char) : Prop :=
  ∀ name ∈ codeNames cs, markedEmoji? name = none

private theorem untilColon?_eq {cs name after : List Char}
    (found : untilColon? cs = some (name, after)) :
    cs = name ++ ':' :: after := by
  induction cs generalizing name after with
  | nil => cases found
  | cons c rest inductionHypothesis =>
      rw [untilColon?] at found
      split at found
      · rename_i isColon
        cases found
        rw [isColon]
        rfl
      · split at found
        · cases found
        · obtain ⟨⟨inner, left⟩, innerFound, same⟩ := Option.map_eq_some_iff.mp found
          cases same
          rw [inductionHypothesis innerFound]
          rfl

theorem replaceEmoji_of_none {rest : List Char} (noColon : untilColon? rest = none) :
    replaceEmoji (':' :: rest) = ':' :: replaceEmoji rest ∧
      codeNames (':' :: rest) = codeNames rest := by
  rw [replaceEmoji, codeNames, if_pos rfl, if_pos rfl]
  constructor
  · split
    next => rfl
    next found => rw [noColon] at found; cases found
  · split
    next => rfl
    next found => rw [noColon] at found; cases found

theorem replaceEmoji_of_some {rest name after : List Char}
    (found : untilColon? rest = some (name, after)) :
    replaceEmoji (':' :: rest) =
        ((markedEmoji? name).getD (':' :: (name ++ [':']))) ++ replaceEmoji after ∧
      codeNames (':' :: rest) = name :: codeNames after := by
  rw [replaceEmoji, codeNames, if_pos rfl, if_pos rfl]
  constructor
  · split
    next noColon => rw [found] at noColon; cases noColon
    next same =>
      rw [found] at same
      cases same
      cases markedEmoji? name <;> rfl
  · split
    next noColon => rw [found] at noColon; cases noColon
    next same =>
      rw [found] at same
      cases same
      rfl

theorem codeNames_cons {c : Char} (differs : c ≠ ':') (rest : List Char) :
    codeNames (c :: rest) = codeNames rest := by
  rw [codeNames, if_neg differs]

theorem codeNames_append {front : List Char} (uncoloned : ∀ c ∈ front, c ≠ ':') (rest : List Char) :
    codeNames (front ++ rest) = codeNames rest := by
  induction front with
  | nil => rfl
  | cons c front inductionHypothesis =>
      obtain ⟨differs, others⟩ := List.forall_mem_cons.mp uncoloned
      rw [List.cons_append, codeNames_cons differs, inductionHypothesis others]

theorem untilColon?_append {name : List Char}
    (kept : ∀ c ∈ name, c ≠ ':' ∧ Text.isBlank c = false) (after : List Char) :
    untilColon? (name ++ ':' :: after) = some (name, after) := by
  induction name with
  | nil => rw [List.nil_append, untilColon?, if_pos rfl]
  | cons c name inductionHypothesis =>
      obtain ⟨⟨differs, filled⟩, others⟩ := List.forall_mem_cons.mp kept
      rw [List.cons_append, untilColon?, if_neg differs, filled, inductionHypothesis others]
      rfl

theorem IsCodeless.replaceEmoji_eq {cs : List Char} (codeless : IsCodeless cs) :
    replaceEmoji cs = cs := by
  induction cs using replaceEmoji.induct with
  | case1 => rw [replaceEmoji]
  | case2 rest noColon inductionHypothesis =>
      obtain ⟨replaced, names⟩ := replaceEmoji_of_none noColon
      rw [IsCodeless, names] at codeless
      rw [replaced, inductionHypothesis codeless]
  | case3 rest name after found shorter inductionHypothesis =>
      obtain ⟨replaced, names⟩ := replaceEmoji_of_some found
      rw [IsCodeless, names] at codeless
      obtain ⟨unknown, others⟩ := List.forall_mem_cons.mp codeless
      rw [replaced, unknown, inductionHypothesis others, untilColon?_eq found]
      simp
  | case4 c rest notColon inductionHypothesis =>
      rw [IsCodeless, codeNames_cons notColon] at codeless
      rw [replaceEmoji_cons notColon, inductionHypothesis codeless]

/-- Every code that is replaced takes its two colons with it. -/
theorem marks_replaceEmoji_add_le (cs : List Char) :
    marks (replaceEmoji cs) + 2 * (codeNames cs).countP (fun name => (markedEmoji? name).isSome) ≤
      marks cs := by
  have colon : isMark ':' = true := by decide
  induction cs using replaceEmoji.induct with
  | case1 => simp [replaceEmoji, codeNames]
  | case2 rest noColon inductionHypothesis =>
      obtain ⟨replaced, names⟩ := replaceEmoji_of_none noColon
      rw [replaced, names, marks_cons, marks_cons]
      omega
  | case3 rest name after found shorter inductionHypothesis =>
      obtain ⟨replaced, names⟩ := replaceEmoji_of_some found
      rw [replaced, names, untilColon?_eq found, List.countP_cons]
      simp only [marks_append, marks_cons, colon, if_true]
      cases known : markedEmoji? name with
      | none =>
          simp only [Option.getD_none, marks_append, marks_cons, marks_nil, colon, if_true]
          simp
          omega
      | some characters =>
          have unmarked : marks characters = 0 :=
            marks_eq_zero fun c member => isPlain_of_isInLine (isInLine_of_markedEmoji? known c member)
          simp only [Option.getD_some, unmarked, Option.isSome_some, if_true]
          omega
  | case4 c rest notColon inductionHypothesis =>
      rw [replaceEmoji_cons notColon, codeNames_cons notColon, marks_cons, marks_cons]
      omega

private theorem marks_replaceEmoji_le (cs : List Char) : marks (replaceEmoji cs) ≤ marks cs :=
  Nat.le_of_add_right_le (marks_replaceEmoji_add_le cs)

/-- A text without marks lost has no code that is an emoji. -/
theorem isCodeless_of_marks_le {cs : List Char} (full : marks cs ≤ marks (replaceEmoji cs)) :
    IsCodeless cs := by
  have most := marks_replaceEmoji_add_le cs
  have noneReplaced : (codeNames cs).countP (fun name => (markedEmoji? name).isSome) = 0 := by omega
  intro name member
  simpa using List.countP_eq_zero.mp noneReplaced name member

theorem replaceEmoji_eq_self_iff {cs : List Char} : replaceEmoji cs = cs ↔ IsCodeless cs :=
  ⟨fun same => isCodeless_of_marks_le (by rw [same]), IsCodeless.replaceEmoji_eq⟩

/-- What stands in a text with its codes replaced is of the text or an emoji. -/
theorem mem_replaceEmoji {cs : List Char} {c : Char} (member : c ∈ replaceEmoji cs) :
    c ∈ cs ∨ isInLine c = true := by
  induction cs using replaceEmoji.induct with
  | case1 =>
      rw [replaceEmoji] at member
      cases member
  | case2 rest noColon inductionHypothesis =>
      rw [(replaceEmoji_of_none noColon).1] at member
      rcases List.mem_cons.mp member with rfl | inRest
      · exact .inl List.mem_cons_self
      · exact (inductionHypothesis inRest).imp_left (List.mem_cons_of_mem _)
  | case3 rest name after found shorter inductionHypothesis =>
      have whole : ':' :: rest = (':' :: (name ++ [':'])) ++ after := by
        rw [untilColon?_eq found]
        simp
      rw [(replaceEmoji_of_some found).1] at member
      rw [whole]
      rcases List.mem_append.mp member with inCode | inAfter
      · cases known : markedEmoji? name with
        | none =>
            rw [known] at inCode
            exact .inl (List.mem_append_left after inCode)
        | some characters =>
            rw [known] at inCode
            exact .inr (isInLine_of_markedEmoji? known c inCode)
      · exact (inductionHypothesis inAfter).imp_left (List.mem_append_right _)
  | case4 first rest notColon inductionHypothesis =>
      rw [replaceEmoji_cons notColon] at member
      rcases List.mem_cons.mp member with rfl | inRest
      · exact .inl List.mem_cons_self
      · exact (inductionHypothesis inRest).imp_left (List.mem_cons_of_mem _)

/-! ## Backslashes in front of brackets -/

/-- Only a backslash in front of a bracket is left out. -/
theorem unescapeBrackets_eq_self {cs : List Char} (unescaped : ¬ ['\\', '['] <:+: cs) :
    unescapeBrackets cs = cs := by
  induction cs using unescapeBrackets.induct with
  | case1 rest inductionHypothesis => exact absurd ⟨[], rest, rfl⟩ unescaped
  | case2 c rest other inductionHypothesis =>
      rw [unescapeBrackets]
      · rw [inductionHypothesis fun inRest => unescaped (inRest.trans (List.suffix_cons c rest).isInfix)]
      · exact other
  | case3 => rfl

private theorem marks_unescapeBrackets_le (cs : List Char) :
    marks (unescapeBrackets cs) ≤ marks cs := by
  induction cs using unescapeBrackets.induct with
  | case1 rest inductionHypothesis =>
      rw [unescapeBrackets, marks_cons, marks_cons, marks_cons]
      omega
  | case2 c rest other inductionHypothesis =>
      rw [unescapeBrackets, marks_cons, marks_cons]
      · omega
      · exact other
  | case3 => exact Nat.le_refl 0

private theorem marks_unescapeBrackets_lt {cs : List Char} (escaped : ['\\', '['] <:+: cs) :
    marks (unescapeBrackets cs) < marks cs := by
  induction cs using unescapeBrackets.induct with
  | case1 rest inductionHypothesis =>
      have backslash : isMark '\\' = true := by decide
      have fewer := marks_unescapeBrackets_le rest
      rw [unescapeBrackets, marks_cons, marks_cons, marks_cons, backslash, if_pos rfl]
      omega
  | case2 c rest other inductionHypothesis =>
      rcases List.infix_cons_iff.mp escaped with ⟨later, same⟩ | inRest
      · obtain ⟨rfl, rfl⟩ := List.cons.inj same
        exact absurd rfl (other later rfl)
      · have fewer := inductionHypothesis inRest
        rw [unescapeBrackets, marks_cons, marks_cons]
        · omega
        · exact other
  | case3 => simp at escaped

private theorem mem_unescapeBrackets {cs : List Char} {c : Char}
    (member : c ∈ unescapeBrackets cs) :
    c ∈ cs := by
  induction cs using unescapeBrackets.induct with
  | case1 rest inductionHypothesis =>
      rw [unescapeBrackets] at member
      rcases List.mem_cons.mp member with rfl | inRest
      · simp
      · exact List.mem_cons_of_mem _ (List.mem_cons_of_mem _ (inductionHypothesis inRest))
  | case2 first rest other inductionHypothesis =>
      rw [unescapeBrackets] at member
      · rcases List.mem_cons.mp member with rfl | inRest
        · exact List.mem_cons_self
        · exact List.mem_cons_of_mem _ (inductionHypothesis inRest)
      · exact other
  | case3 => cases member

/-! ## Plain text of markup -/

/-- Nothing in the characters means anything to markup that takes them as text. -/
structure IsLiteral (cs : List Char) : Prop where
  unescaped : ¬ ['\\', '['] <:+: cs
  codeless : IsCodeless cs

theorem IsLiteral.plainText_eq {cs : List Char} (literal : IsLiteral cs) : plainText cs = cs := by
  rw [plainText, unescapeBrackets_eq_self literal.unescaped, literal.codeless.replaceEmoji_eq]

theorem marks_plainText_le (cs : List Char) : marks (plainText cs) ≤ marks cs :=
  Nat.le_trans (marks_replaceEmoji_le _) (marks_unescapeBrackets_le cs)

theorem isLiteral_of_marks_le {cs : List Char} (full : marks cs ≤ marks (plainText cs)) :
    IsLiteral cs := by
  have replaced := marks_replaceEmoji_le (unescapeBrackets cs)
  have unescaped : ¬ ['\\', '['] <:+: cs := by
    intro escaped
    have fewer := marks_unescapeBrackets_lt escaped
    rw [plainText] at full
    omega
  refine ⟨unescaped, isCodeless_of_marks_le ?_⟩
  rwa [plainText, unescapeBrackets_eq_self unescaped] at full

theorem plainText_eq_self_iff {cs : List Char} : plainText cs = cs ↔ IsLiteral cs :=
  ⟨fun same => isLiteral_of_marks_le (by rw [same]), IsLiteral.plainText_eq⟩

theorem mem_plainText {cs : List Char} {c : Char} (member : c ∈ plainText cs) :
    c ∈ cs ∨ isInLine c = true :=
  (mem_replaceEmoji member).imp_left mem_unescapeBrackets

end AddonBindings.Console
