import AddonBindings.Files.Reading

/-!
Contract: changes to files.

Owns: writing files, making directories, making links and removing entries, each
with the failures of its access.

Does not own: which changes a run makes, which is in `AddonBindings.Output`.

A change that fails keeps what was changed before.
-/

namespace AddonBindings.Files

abbrev Change (α : Type) := ExceptT Failure (StateM FileTree) α

def observe {α : Type} (look : FileTree → Except Failure α) : Change α := do
  match look (← get) with
  | .ok value => return value
  | .error failure => throw failure

def writeFile (path : Path) (bytes : List UInt8) : Change Unit := do
  match ← observe (locate · true path) with
  | .vacant location => modify (·.place location (.file bytes))
  | .found location (.file _) => modify (·.overwrite location (.file bytes))
  | .found _ .directory => observe fun _ => refusal .isDirectory path
  | .found _ (.link _) => observe fun _ => refusal .tooManyLinks path

def makeDirectory (path : Path) : Change Unit := do
  match ← observe (locate · false path) with
  | .vacant location => modify (·.place location .directory)
  | .found _ _ => observe fun _ => refusal .entryExists path

/-- Make a directory in an existing one, unless the path leads to one already. -/
def ensureDirectory (path : Path) : Change Unit := do
  try makeDirectory path
  catch failure =>
    match failure with
    | .refused fault =>
        if fault.reason = .noEntry then throw failure
        else if ← observe (isDirectory · path) then pure ()
        else throw failure
    | .nullCharacter => throw failure

/-- Make a directory and the directories above it that are missing. -/
def ensureDirectories (path : Path) : Change Unit := do
  try ensureDirectory path
  catch failure =>
    match failure with
    | .refused fault =>
        if fault.reason ≠ .noEntry then throw failure
        else if path.parts.isEmpty then throw failure
        else
          ensureDirectories path.parent
          ensureDirectory path
    | .nullCharacter => throw failure
termination_by path.parts.length
decreasing_by
  have nonempty : path.parts ≠ [] := by simpa using ‹¬path.parts.isEmpty = true›
  have positive : 0 < path.parts.length := List.length_pos_iff.mpr nonempty
  simp only [Path.parent, List.length_dropLast]
  omega

/-- Remove what a path itself names, with everything inside if it is a directory. -/
def removeEntry (path : Path) : Change Unit := do
  match ← observe (locate · false path) with
  | .found location _ => modify (·.remove location)
  | .vacant _ => observe fun _ => refusal .noEntry path

def makeLink (path : Path) (target : String) : Change Unit := do
  match ← observe (locate · false path) with
  | .vacant location => modify (·.place location (.link target))
  | .found _ _ => throw (.refused ⟨.entryExists, target, some path.text⟩)

end AddonBindings.Files
