import AddonBindings.Text.Blank
import AddonBindings.Text.Lines

/-!
Contract: what comments say about a function.

Owns:
- which comments mark a function as exported;
- the documentation in the other comments.

Does not own: which comments belong to a function, which is in
`AddonBindings.Export.Attachment`.
-/

namespace AddonBindings.Export

/-- The start of a comment that marks a function as exported. -/
def exportMarker : String := "//export "

def isExportMarker (comment : String) : Bool :=
  exportMarker.toList.isPrefixOf (Text.trimChars comment.toList)

/-- The characters without `start` in front, if they have it. -/
def withoutStart (start cs : List Char) : List Char :=
  if start.isPrefixOf cs then cs.drop start.length else cs

/-- The characters without `stop` at the end, if they have it. -/
def withoutStop (stop cs : List Char) : List Char :=
  if stop.isSuffixOf cs then cs.take (cs.length - stop.length) else cs

/-- A line of a block comment without blanks and stars in front. -/
def bareLine (line : List Char) : List Char :=
  Text.trimChars ((Text.trimChars line).dropWhile (· == '*'))

/-- The lines of a comment without the marks of the comment. -/
def bareLines (comment : List Char) : List (List Char) :=
  match comment with
  | '/' :: '/' :: rest => [Text.trimChars rest]
  | _ => (Text.splitLines (withoutStop ['*', '/'] (withoutStart ['/', '*'] comment))).map bareLine

/-- The lines of documentation in a comment.  A marker has none, and empty lines
are left out. -/
def documentationLines (comment : String) : List (List Char) :=
  if isExportMarker comment then []
  else (bareLines (Text.trimChars comment.toList)).filter fun line => !line.isEmpty

/-- The documentation in comments: their lines, joined by line feeds. -/
def documentation (comments : List String) : String :=
  String.intercalate "\n" ((comments.flatMap documentationLines).map String.ofList)

end AddonBindings.Export
