import AddonBindings.Text.Blank
import AddonBindings.Text.CellWidth

/-!
Contract: lines of a given width.

Owns:
- the words of a line with the blanks around them, and the lines they are filled into;
- what is left out of a line that is still too long.

Does not own: what stands around the lines, which is in `AddonBindings.Console.Table`.
-/

namespace AddonBindings.Console

/-- A line cut in front of each character that is no blank and stands after one. -/
def stretches : List Char → List (List Char)
  | [] => []
  | c :: rest =>
      match stretches rest with
      | [] => [[c]]
      | stretch :: more =>
          if Text.isBlank c && !stretch.head?.any Text.isBlank then [c] :: stretch :: more
          else (c :: stretch) :: more

/-- The words of a line, each with the blanks after it and the first with the blanks in
front of it. -/
def wordsWithBlanks (line : List Char) : List (List Char) :=
  match stretches line with
  | first :: second :: more =>
      if first.all Text.isBlank then (first ++ second) :: more else first :: second :: more
  | short => short

/-- The lines after one that has been started and takes `taken` columns.  A word starts a
line of its own if it does not fit, the blanks after it apart. -/
def fillWords (width taken : Nat) (line : List Char) : List (List Char) → List (List Char)
  | [] => [line]
  | word :: rest =>
      if taken + Text.lineWidth (Text.dropEndWhile Text.isBlank word) ≤ width || line.isEmpty then
        fillWords width (taken + Text.lineWidth word) (line ++ word) rest
      else line :: fillWords width (Text.lineWidth word) word rest

/-- As many characters as fit into the width; a blank takes the place of half a
character. -/
def cutToWidth (width : Nat) : List Char → List Char
  | [] => []
  | c :: rest =>
      if Text.cellWidth c ≤ width then c :: cutToWidth (width - Text.cellWidth c) rest
      else List.replicate width ' '

/-- The line without blanks at its end, as far as it has more characters than the
width. -/
def withoutExcess (width : Nat) (line : List Char) : List Char :=
  let blanks := line.length - (Text.dropEndWhile Text.isBlank line).length
  line.take (line.length - min blanks (line.length - width))

/-- The line, or its start and an ellipsis if it is too long. -/
def shortened (width : Nat) (line : List Char) : List Char :=
  if Text.lineWidth line ≤ width then line else cutToWidth (width - 1) line ++ ['…']

def wrapped (width : Nat) (line : List Char) : List (List Char) :=
  (fillWords width 0 [] (wordsWithBlanks line)).map fun part =>
    shortened width (withoutExcess width part)

end AddonBindings.Console
