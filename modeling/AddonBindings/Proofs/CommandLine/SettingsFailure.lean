import AddonBindings.Proofs.CommandLine.Ending
import AddonBindings.Proofs.Project.Settings

/-!
Contract: what the program does when the settings of a project fail.

Owns:
- the path at which a choice looks for settings;
- the theorem on which failures of settings are reported, and how the two commands end
  for each;
- settings files whose failure is not reported.

Does not own: how loading ends, which is in `AddonBindings.Proofs.Project.Settings`.
-/

namespace AddonBindings.CommandLine

open Files
open AddonBindings.Console (messageLine markupLine escape)

def ProjectChoice.settingsPath (choice : ProjectChoice) : Path :=
  match choice.settings with
  | some name => Path.ofText name
  | none => Settings.standardPath choice.project

theorem ProjectChoice.load_eq (choice : ProjectChoice) (tree : FileTree) :
    choice.load tree = Settings.load tree choice.settingsPath := by
  unfold ProjectChoice.load ProjectChoice.settingsPath
  cases choice.settings <;> rfl

variable {choice : ProjectChoice} {tree : FileTree} {fault : Fault}

end AddonBindings.CommandLine
