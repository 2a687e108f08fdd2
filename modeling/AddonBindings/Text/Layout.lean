/-!
Contract: generated text as lines.

Owns: indentation of lines and the text of a whole file.

Does not own: reading texts into lines, which is in `AddonBindings.Text.Lines`.
-/

namespace AddonBindings.Text

def indentation : String := "  "

/-- The lines, each moved one step to the right; an empty line stays empty. -/
def indent (lines : List String) : List String :=
  lines.map fun line => if line.isEmpty then line else indentation ++ line

/-- The text of a file: every line is ended by a line feed. -/
def fileText (lines : List String) : String :=
  String.intercalate "\n" lines ++ "\n"

end AddonBindings.Text
