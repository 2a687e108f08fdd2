import AddonBindings.Console.Line
import AddonBindings.Report

/-!
Contract: messages on the console.

Owns: the line of a message, with the sign of its level.

Does not own: the messages, which are in `AddonBindings.Run`.
-/

namespace AddonBindings.Console

/-- The markup in front of a message: a sign for every level but the lowest. -/
def levelSign : Level → String
  | .info => "  "
  | .success => "  [green]v[/] "
  | .warning => "  [yellow]![/] "
  | .error => "  [red]x[/] "

/-- The line of a message.  Only the sign is markup; the text is shown as it is. -/
def messageLine (message : Message) : Except MarkupFault String :=
  match message.level with
  | .info => .ok (plainLine (levelSign .info ++ message.text))
  | level => markupLine ((levelSign level).toList ++ escape message.text.toList)

def messageLines : List Message → Except MarkupFault String
  | [] => .ok ""
  | message :: rest => do
      let line ← messageLine message
      return line ++ (← messageLines rest)

end AddonBindings.Console
