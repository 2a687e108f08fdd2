import AddonBindings.Datum.Basic
import AddonBindings.Decimal.Digits
import AddonBindings.Text.Quoted

/-!
Contract: the text of a value inside a message.

Owns: the spelling of every kind of value, with brackets, braces and quotation
marks, items separated by a comma and a space; a value that holds a whole number of
too many digits has none.

Does not own: the messages, which are in `AddonBindings.GenerationFault`.
-/

namespace AddonBindings.Datum

mutual

/-- The text of a value. -/
def written? : Datum → Option String
  | null => some "None"
  | bool true => some "True"
  | bool false => some "False"
  | int value => Decimal.writeWhole? value
  | float value => some (Decimal.write value)
  | text value => some (Text.quoted value)
  | bytes value => some (Text.quotedBytes value)
  | date value => some value.written
  | moment value => some value.written
  | sequence items => return "[" ++ ", ".intercalate (← writtenItems? items) ++ "]"
  | mapping entries => return "\x7b" ++ ", ".intercalate (← writtenEntries? entries) ++ "\x7d"
  | set [] => some "set()"
  | set (first :: rest) =>
      return "\x7b" ++ ", ".intercalate (← writtenItems? (first :: rest)) ++ "\x7d"
  | pair first second => return "(" ++ (← written? first) ++ ", " ++ (← written? second) ++ ")"
  | enclosingSequence => some "[...]"
  | enclosingMapping => some "\x7b...\x7d"

def writtenItems? : List Datum → Option (List String)
  | [] => some []
  | item :: rest => return (← written? item) :: (← writtenItems? rest)

def writtenEntries? : List (Datum × Datum) → Option (List String)
  | [] => some []
  | (key, value) :: rest =>
      return ((← written? key) ++ ": " ++ (← written? value)) :: (← writtenEntries? rest)

end

end AddonBindings.Datum
