import Mathlib.Data.Char
import AddonBindings.Boundary.Expression
import AddonBindings.Text.IdentifierCharacter
import AddonBindings.Text.LetterCase

/-!
Contract: words inside generated text.

Owns:
- the characters of words, among them all characters of identifiers;
- the characters of ASCII names;
- words made of words: with a name part in front or behind, with the first letter
  in lower or upper case;
- decimal numbers as words, and their value.

Does not own: the tokens of a text, which are in `AddonBindings.Proofs.Text.Token`.
-/

namespace AddonBindings.Text

/-- A character that continues a word: every character outside ASCII, and the ASCII
letters, digits and the underscore. -/
def isWordCharacter (c : Char) : Bool :=
  128 ≤ c.toNat || isAsciiNameRest c

/-- The text is one word.  Identifiers are words in every language that builds them
from letters, digits and underscores. -/
def isWord (text : String) : Bool :=
  text.toList ≠ [] && text.toList.all isWordCharacter

theorem isWord_iff {text : String} :
    isWord text = true ↔ text.toList ≠ [] ∧ ∀ c ∈ text.toList, isWordCharacter c = true := by
  simp [isWord]

theorem isWordCharacter_of_isAsciiNameRest {c : Char} (isRest : isAsciiNameRest c = true) :
    isWordCharacter c = true := by
  rw [isWordCharacter, isRest, Bool.or_true]

theorem isWordCharacter_of_isIdentifierRest {c : Char} (isRest : isIdentifierRest c = true) :
    isWordCharacter c = true := by
  by_cases ascii : c.toNat < 128
  · rw [isIdentifierRest, if_pos ascii] at isRest
    exact isWordCharacter_of_isAsciiNameRest isRest
  · rw [isWordCharacter, decide_eq_true (Nat.le_of_not_lt ascii), Bool.true_or]

/-! ## ASCII names -/

theorem lt_of_isAsciiNameRest {c : Char} (isRest : isAsciiNameRest c = true) :
    c.toNat < 128 := by
  delta isAsciiNameRest Char.isAlphanum Char.isAlpha Char.isUpper Char.isLower Char.isDigit at isRest
  simp only [Bool.or_eq_true, Bool.and_eq_true, decide_eq_true_eq, beq_iff_eq] at isRest
  rcases isRest with ((⟨-, below⟩ | ⟨-, below⟩) | ⟨-, below⟩) | rfl
  · exact Nat.lt_of_le_of_lt (UInt32.le_iff_toNat_le.mp below) (by decide)
  · exact Nat.lt_of_le_of_lt (UInt32.le_iff_toNat_le.mp below) (by decide)
  · exact Nat.lt_of_le_of_lt (UInt32.le_iff_toNat_le.mp below) (by decide)
  · decide

theorem isAsciiNameRest_of_isAsciiNameStart {c : Char} (isStart : isAsciiNameStart c = true) :
    isAsciiNameRest c = true := by
  rw [isAsciiNameStart, Bool.or_eq_true] at isStart
  rw [isAsciiNameRest, Char.isAlphanum, Bool.or_eq_true, Bool.or_eq_true]
  exact isStart.imp_left .inl

theorem isAsciiNameRest_of_mem {cs : List Char} (isName : TypeExpression.isAsciiName cs = true)
    {c : Char} (member : c ∈ cs) : isAsciiNameRest c = true := by
  cases cs with
  | nil => cases member
  | cons first others =>
      rw [TypeExpression.isAsciiName, Bool.and_eq_true, List.all_eq_true] at isName
      rcases List.mem_cons.mp member with rfl | inOthers
      · exact isAsciiNameRest_of_isAsciiNameStart isName.1
      · exact isName.2 c inOthers

/-! ## Words made of words -/

theorem isWord_append {front back : String} (isFront : isWord front = true)
    (isBack : ∀ c ∈ back.toList, isWordCharacter c = true) : isWord (front ++ back) = true := by
  rw [isWord_iff] at isFront ⊢
  obtain ⟨filled, characters⟩ := isFront
  rw [String.toList_append]
  refine ⟨List.append_ne_nil_of_left_ne_nil filled _, fun c member => ?_⟩
  rcases List.mem_append.mp member with inFront | inBack
  · exact characters c inFront
  · exact isBack c inBack

/-- A change of the first character that gives word characters keeps words. -/
theorem isWord_changeFirst {change : Char → List Char}
    (filled : ∀ c, change c ≠ [])
    (kept : ∀ c, isWordCharacter c = true → ∀ d ∈ change c, isWordCharacter d = true)
    {text : String} (word : isWord text = true) : isWord (changeFirst change text) = true := by
  rw [isWord_iff] at word ⊢
  obtain ⟨nonempty, characters⟩ := word
  cases same : text.toList with
  | nil => exact absurd same nonempty
  | cons first rest =>
      rw [same] at characters
      have asList : (changeFirst change text).toList = change first ++ rest := by
        rw [changeFirst, same, String.toList_ofList]
      rw [asList]
      refine ⟨List.append_ne_nil_of_left_ne_nil (filled first) rest, fun c member => ?_⟩
      rcases List.mem_append.mp member with changed | inRest
      · exact kept first (characters first (by simp)) c changed
      · exact characters c (by simp [inRest])

/-! ## Letter case -/

/-- The code points that a run gives are characters, and none of them is an ASCII
mark. -/
def runGivesWords (run : CaseRun) : Bool :=
  match run with
  | (first, last, _, distance) =>
      (128 ≤ first + distance &&
          (last + distance < 0xD800 ||
            (0xDFFF < first + distance && last + distance < 0x110000))) ||
        (first == last && isAsciiNameRest (Char.ofNat (first + distance).toNat))

private theorem isWordCharacter_ofNat {code : Nat} (high : 128 ≤ code) (valid : code.isValidChar) :
    isWordCharacter (Char.ofNat code) = true := by
  have number : (Char.ofNat code).toNat = code := by
    rw [Char.ofNat, dif_pos valid]
    rfl
  rw [isWordCharacter, number, decide_eq_true high, Bool.true_or]

private theorem isWordCharacter_of_runGivesWords {run : CaseRun} (gives : runGivesWords run = true)
    {code moved : Nat} (moves : run.move? code = some moved) :
    isWordCharacter (Char.ofNat moved) = true := by
  obtain ⟨first, last, step, distance⟩ := run
  simp only [CaseRun.move?, Option.ite_none_right_eq_some, Bool.and_eq_true, decide_eq_true_eq,
    Option.some.injEq] at moves
  obtain ⟨⟨⟨low, high⟩, -⟩, rfl⟩ := moves
  simp only [runGivesWords, Bool.or_eq_true, Bool.and_eq_true, decide_eq_true_eq, beq_iff_eq]
    at gives
  rcases gives with ⟨above, range⟩ | ⟨single, asciiRest⟩
  · apply isWordCharacter_ofNat
    · simp only [Int.ofNat_eq_natCast]
      omega
    · simp only [Nat.isValidChar, Int.ofNat_eq_natCast]
      omega
  · have same : code = first := by omega
    rw [same]
    exact isWordCharacter_of_isAsciiNameRest asciiRest

theorem mem_of_lookup_eq_some {κ β : Type} [BEq κ] [LawfulBEq κ] {entries : List (κ × β)} {key : κ}
    {value : β} (found : entries.lookup key = some value) : (key, value) ∈ entries := by
  obtain ⟨front, back, rfl, -⟩ := List.lookup_eq_some_iff.mp found
  simp

private theorem isWordCharacter_of_mem_caseCounterpart
    {runs : List CaseRun} {sequences : List (Nat × List Nat)}
    (runsGive : ∀ run ∈ runs, runGivesWords run = true)
    (sequencesGive : ∀ entry ∈ sequences,
      ∀ code ∈ entry.2, isWordCharacter (Char.ofNat code) = true)
    {c d : Char} (word : isWordCharacter c = true) (member : d ∈ caseCounterpart runs sequences c) :
    isWordCharacter d = true := by
  unfold caseCounterpart at member
  split at member
  next codes found =>
    obtain ⟨code, inCodes, rfl⟩ := List.mem_map.mp member
    exact sequencesGive _ (mem_of_lookup_eq_some found) code inCodes
  next =>
    split at member
    next moved found =>
      obtain ⟨run, inRuns, moves⟩ := List.exists_of_findSome?_eq_some found
      rw [List.mem_singleton.mp member]
      exact isWordCharacter_of_runGivesWords (runsGive run inRuns) moves
    next => rwa [List.mem_singleton.mp member]

private theorem caseCounterpart_ne_nil
    {runs : List CaseRun} {sequences : List (Nat × List Nat)}
    (filled : ∀ entry ∈ sequences, entry.2 ≠ []) (c : Char) :
    caseCounterpart runs sequences c ≠ [] := by
  unfold caseCounterpart
  split
  next codes found =>
    exact mt List.map_eq_nil_iff.mp (filled _ (mem_of_lookup_eq_some found))
  next => split <;> simp

private theorem isAsciiNameRest_toLower : ∀ code < 128, isAsciiNameRest (Char.ofNat code) = true →
    isAsciiNameRest (Char.ofNat code).toLower = true := by
  decide +kernel

theorem isAsciiNameRest_toUpper : ∀ code < 128, isAsciiNameRest (Char.ofNat code) = true →
    isAsciiNameRest (Char.ofNat code).toUpper = true := by
  decide +kernel

/-- A change of letter case keeps words: an ASCII letter stays an ASCII letter, and
no other character turns into an ASCII mark. -/
theorem isWord_changeCase {small : Char → Char} {runs : List CaseRun}
    {sequences : List (Nat × List Nat)}
    (smallGives : ∀ code < 128, isAsciiNameRest (Char.ofNat code) = true →
      isAsciiNameRest (small (Char.ofNat code)) = true)
    (runsGive : ∀ run ∈ runs, runGivesWords run = true)
    (filled : ∀ entry ∈ sequences, entry.2 ≠ [])
    (sequencesGive : ∀ entry ∈ sequences,
      ∀ code ∈ entry.2, isWordCharacter (Char.ofNat code) = true)
    {text : String} (word : isWord text = true) :
    isWord (changeFirst
      (fun c => if c.toNat < 128 then [small c] else caseCounterpart runs sequences c) text) =
      true := by
  refine isWord_changeFirst (fun c => ?_) (fun c isCharacter d member => ?_) word
  · split
    · exact List.cons_ne_nil _ _
    · exact caseCounterpart_ne_nil filled c
  · split at member
    next ascii =>
      rw [isWordCharacter, decide_eq_false (Nat.not_le_of_lt ascii), Bool.false_or] at isCharacter
      have changed := smallGives c.toNat ascii
      rw [Char.ofNat_toNat] at changed
      rw [List.mem_singleton.mp member]
      exact isWordCharacter_of_isAsciiNameRest (changed isCharacter)
    next =>
      exact isWordCharacter_of_mem_caseCounterpart runsGive sequencesGive isCharacter member

theorem isWord_lowerFirst {text : String} (word : isWord text = true) :
    isWord (lowerFirst text) = true :=
  isWord_changeCase isAsciiNameRest_toLower (by decide +kernel) (by decide +kernel)
    (by decide +kernel) word

theorem isWord_upperFirst {text : String} (word : isWord text = true) :
    isWord (upperFirst text) = true :=
  isWord_changeCase isAsciiNameRest_toUpper (by decide +kernel) (by decide +kernel)
    (by decide +kernel) word

/-! ## Decimal numbers -/

/-- The number that a word of decimal digits stands for. -/
def number? (text : String) : Option Nat :=
  if isWord text && text.toList.all Char.isDigit then some (Nat.ofDigitChars 10 text.toList 0)
  else none

theorem isWord_repr (number : Nat) : isWord (Nat.repr number) = true := by
  rw [isWord_iff, Nat.toList_repr]
  refine ⟨Nat.toDigits_ne_nil, fun c member => ?_⟩
  have digit := Nat.isDigit_of_mem_toDigits (by decide) (by decide) member
  apply isWordCharacter_of_isAsciiNameRest
  simp [isAsciiNameRest, Char.isAlphanum, digit]

theorem number?_repr (number : Nat) : number? (Nat.repr number) = some number := by
  have digits : (Nat.repr number).toList.all Char.isDigit = true := by
    rw [Nat.toList_repr, List.all_eq_true]
    exact fun c member => Nat.isDigit_of_mem_toDigits (by decide) (by decide) member
  rw [number?, isWord_repr, digits, Bool.and_self, if_pos rfl, Nat.toList_repr,
    Nat.ofDigitChars_ten_toDigits]

end AddonBindings.Text
