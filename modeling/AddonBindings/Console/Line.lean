import AddonBindings.Console.Markup
import AddonBindings.Text.CellWidth

/-!
Contract: lines on the console.

Owns:
- what is left out of a text and how tabulators are filled;
- a line from plain text and a line from markup.

Does not own: which lines are printed, which is in `AddonBindings.Console.Report`
and `AddonBindings.CommandLine.Execution`.
-/

namespace AddonBindings.Console

/-- A character that moves the cursor and is not printed: bell, backspace, vertical
tabulator, form feed and carriage return. -/
def isCursorControl (c : Char) : Bool :=
  c == '\x07' || c == '\x08' || c == '\x0b' || c == '\x0c' || c == '\r'

/-- The text without characters that only move the cursor. -/
def withoutControls (cs : List Char) : List Char :=
  cs.filter fun c => !isCursorControl c

/-- The columns between two tabulator stops. -/
def tabWidth : Nat := 8

/-- The text from a column on, with blanks up to the next stop for every
tabulator. -/
def fillTabs (column : Nat) : List Char → List Char
  | [] => []
  | c :: rest =>
      if c = '\n' then c :: fillTabs 0 rest
      else if c = '\t' then
        let blanks := tabWidth - column % tabWidth
        List.replicate blanks ' ' ++ fillTabs (column + blanks) rest
      else c :: fillTabs (column + Text.cellWidth c) rest

def printed (cs : List Char) : String :=
  String.ofList (fillTabs 0 (withoutControls cs) ++ ['\n'])

/-- The line that prints a text without markup; emoji codes count. -/
def plainLine (text : String) : String :=
  printed (replaceEmoji text.toList)

def markupLine (markup : List Char) : Except MarkupFault String :=
  (shown markup).map printed

end AddonBindings.Console
