import AddonBindings.Console.EmojiNames
import AddonBindings.Text.Blank
import AddonBindings.Text.LetterCase

/-!
Contract: emoji codes in console texts.

Owns:
- the codes, which are names between two colons;
- the replacement of the codes in a text.

Does not own: the characters of the names, which are in `AddonBindings.Console.EmojiNames`,
and markup, which is in `AddonBindings.Console.Markup`.
-/

namespace AddonBindings.Console

/-- The characters of a code, with a mark that asks for its plain or its colourful form
if the name ends in one.  Small and capital letters are the same. -/
def markedEmoji? (name : List Char) : Option (List Char) :=
  let known (name : List Char) : Option (List Char) := emoji? (name.flatMap Text.lowerCase)
  match withoutSuffix? "-emoji".toList name, withoutSuffix? "-text".toList name with
  | some bare, _ => (known bare).map (· ++ ['\uFE0F'])
  | none, some bare => (known bare).map (· ++ ['\uFE0E'])
  | none, none => known name

/-- What stands before the next colon, and what follows that colon, if no blank
comes first. -/
def untilColon? : List Char → Option (List Char × List Char)
  | [] => none
  | c :: rest =>
      if c = ':' then some ([], rest)
      else if Text.isBlank c then none
      else (untilColon? rest).map fun (name, after) => (c :: name, after)

/-- What follows the colon is shorter. -/
theorem length_of_untilColon? {cs name after : List Char}
    (found : untilColon? cs = some (name, after)) : after.length < cs.length := by
  induction cs generalizing name after with
  | nil => simp [untilColon?] at found
  | cons c rest inductionHypothesis =>
      simp only [untilColon?] at found
      split at found
      · simp only [Option.some.injEq, Prod.mk.injEq] at found
        simp [← found.2]
      · split at found
        · simp at found
        · obtain ⟨⟨inner, left⟩, innerFound, same⟩ := Option.map_eq_some_iff.mp found
          simp only [Prod.mk.injEq] at same
          have shorter := inductionHypothesis innerFound
          rw [← same.2]
          simpa using Nat.lt_succ_of_lt shorter

/-- The text with emoji for their codes.  Two colons with an unknown name between
them stay, and neither of them starts another code. -/
def replaceEmoji : List Char → List Char
  | [] => []
  | c :: rest =>
      if c = ':' then
        match found : untilColon? rest with
        | none => c :: replaceEmoji rest
        | some (name, after) =>
            have : after.length < rest.length := length_of_untilColon? found
            let shown :=
              match markedEmoji? name with
              | some emoji => emoji
              | none => ':' :: (name ++ [':'])
            shown ++ replaceEmoji after
      else c :: replaceEmoji rest
termination_by cs => cs.length

end AddonBindings.Console
