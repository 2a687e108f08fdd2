import AddonBindings.Sorting

/-!
Contract: likeness of words.

Owns:
- the number of characters that two words share in order, block by block;
- the words most like a given one.

Does not own: what is suggested to the user, which is in
`AddonBindings.CommandLine.Usage`.
-/

namespace AddonBindings.Text

/-- The number of characters at which two words agree from the start. -/
def commonLength : List Char → List Char → Nat
  | left :: lefts, right :: rights => if left = right then commonLength lefts rights + 1 else 0
  | _, _ => 0

/-- A block of equal characters: where it starts in either word, and its length. -/
structure CommonBlock where
  left : Nat
  right : Nat
  length : Nat
deriving DecidableEq, Repr

/-- The longest block that starts at `index` of the first word; of several the one
that starts first in the second word. -/
def longestBlockAt (index : Nat) (left right : List Char) : CommonBlock :=
  (List.range right.length).foldl
    (fun best start =>
      let length := commonLength (left.drop index) (right.drop start)
      if best.length < length then ⟨index, start, length⟩ else best)
    ⟨index, 0, 0⟩

/-- The longest block; of several the one that starts first in the first word. -/
def longestBlock (left right : List Char) : CommonBlock :=
  (List.range left.length).foldl
    (fun best index =>
      let block := longestBlockAt index left right
      if best.length < block.length then block else best)
    ⟨0, 0, 0⟩

/-- The number of characters in common blocks: the longest block, and then those on
its left and on its right, at most `depth` levels deep. -/
def sharedLength : Nat → List Char → List Char → Nat
  | 0, _, _ => 0
  | depth + 1, left, right =>
      let block := longestBlock left right
      if block.length = 0 then 0
      else
        block.length + sharedLength depth (left.take block.left) (right.take block.right) +
          sharedLength depth (left.drop (block.left + block.length))
            (right.drop (block.right + block.length))

/-- The number of characters that two words share. -/
def shared (left right : String) : Nat :=
  sharedLength left.length left.toList right.toList

/-- Twice the shared characters are at least three fifths of all characters. -/
def isLike (left right : String) : Bool :=
  3 * (left.length + right.length) ≤ 10 * shared left right

/-- The likeness of the first pair of words is at least that of the second; words of
equal likeness stand in descending order. -/
def likenessLe (word : String) (first second : String) : Bool :=
  let firstScore := shared first word * (second.length + word.length)
  let secondScore := shared second word * (first.length + word.length)
  if firstScore = secondScore then decide (second ≤ first) else decide (secondScore < firstScore)

/-- At most three of the known words, those most like the given one. -/
def closeWords (known : List String) (word : String) : List String :=
  (Sorting.sort (likenessLe word) (known.filter fun candidate => isLike candidate word)).take 3

end AddonBindings.Text
