import AddonBindings.CommandLine.Execution
import Std.Data.HashSet

/-!
Contract: the program.

Owns:
- taking down the files that a request can reach, with the content of those it
  reads and what may not be searched or read;
- printing what the request prints, and making its changes to the files.

Does not own: what a request does, which is in
`AddonBindings.CommandLine.Execution`.
-/

namespace AddonBindings.Program

open AddonBindings.CommandLine
open AddonBindings.Files

/-- Files as they are taken down: the entries, and which locations have been listed
and searched. -/
structure Survey where
  entries : List (Location × Entry) := []
  listed : Std.HashSet Location := {}
  searched : Std.HashSet Location := {}
  unsearchable : List Location := []
  unreadable : List Location := []

def succeeds {α : Type} (access : IO α) : IO Bool := do
  try
    let _ ← access
    return true
  catch _ => return false

def textOf (location : Location) : String :=
  "/" ++ "/".intercalate location

def locationOf (text : String) : Location :=
  Path.partsOf text

namespace Survey

/-- One more entry, unless its location is listed. -/
def add (survey : Survey) (location : Location) (entry : Entry) : Survey :=
  if location = [] || survey.listed.contains location then survey
  else
    { survey with
      entries := (location, entry) :: survey.entries
      listed := survey.listed.insert location }

def addParents (survey : Survey) (location : Location) : Survey :=
  (List.range location.length).foldl
    (fun survey count => survey.add (location.take count) .directory) survey

mutual

/-- Take down a directory with everything below it. -/
partial def search (survey : Survey) (location : Location) : IO Survey := do
  if survey.searched.contains location then return survey
  let mut survey := { survey with searched := survey.searched.insert location }
  let path ← IO.FS.realPath (textOf location)
  let items ← try some <$> path.readDir catch _ => pure none
  if items.isNone then survey := { survey with unreadable := location :: survey.unreadable }
  -- the point in a directory can be looked at only if the directory may be searched
  unless ← succeeds (path / ".").metadata do
    return { survey with unsearchable := location :: survey.unsearchable }
  for item in items.getD #[] do
    let inside := location ++ [item.fileName]
    match (← item.path.symlinkMetadata).type with
    | .dir => survey ← (survey.add inside .directory).search inside
    | .file => survey := survey.add inside (.file [])
    | .symlink => survey ← survey.follow inside
    | .other => pure ()
  return survey

/-- Take down a link and what it leads to. -/
partial def follow (survey : Survey) (location : Location) : IO Survey := do
  try
    let target := (← IO.FS.realPath (textOf location)).toString
    (survey.add location (.link target)).reach target
  catch _ => return survey.add location (.link "")

/-- Take down what an absolute path leads to, if it leads anywhere. -/
partial def reach (survey : Survey) (text : String) : IO Survey := do
  try
    let path ← IO.FS.realPath text
    let location := locationOf path.toString
    let survey := survey.addParents location
    match (← path.metadata).type with
    | .dir => (survey.add location .directory).search location
    | .file => return survey.add location (.file [])
    | _ => return survey
  catch _ => return survey

end

def tree (survey : Survey) (working : Location) : FileTree :=
  ⟨survey.entries, working, survey.unsearchable, survey.unreadable⟩

end Survey

def withContent (tree : FileTree) (path : Path) : IO FileTree := do
  match locate tree true path with
  | .ok (.found location (.file _)) =>
      try
        let bytes ← IO.FS.readBinFile (textOf location)
        return tree.overwrite location (.file bytes.toList)
      catch _ => return { tree with unreadable := location :: tree.unreadable }
  | _ => return tree

/-- The path as it is written if it is absolute, and seen from the working directory
otherwise. -/
def absoluteText (working : Location) (path : Path) : String :=
  if path.isAbsolute then path.text else textOf working ++ "/" ++ path.text

/-- The directory in which all paths that a pattern selects stand: the project, or as
many directories above it as the pattern goes up. -/
def patternRoot (project : Path) (pattern : String) : Path :=
  ⟨project.anchor, project.parts ++ (Path.partsOf pattern).filter (· == "..")⟩

/-- The files that a request on a project can reach, with the content of the settings
and the sources. -/
def filesOf (choice : ProjectChoice) (output : Option String) (working : Location) :
    IO FileTree := do
  let settingsPath :=
    match choice.settings with
    | some name => Path.ofText name
    | none => Settings.standardPath choice.project
  let survey := (({} : Survey).addParents working).add working .directory
  let survey ← survey.reach (absoluteText working choice.project)
  let survey ← survey.reach (absoluteText working settingsPath)
  let tree ← withContent (survey.tree working) settingsPath
  match choice.load tree with
  | .error _ => return tree
  | .ok settings =>
      let directory := Output.directory choice.project (output.getD settings.output)
      let roots := directory :: settings.patterns.map (patternRoot choice.project)
      let survey ← roots.foldlM (fun survey path => survey.reach (absoluteText working path)) survey
      let tree ← withContent (survey.tree working) settingsPath
      match Project.sources tree choice.project settings.patterns with
      | .error _ => return tree
      | .ok sources => sources.foldlM withContent tree

def filesFor (arguments : List String) : IO FileTree := do
  let working := locationOf (← IO.FS.realPath (← IO.currentDir)).toString
  match request arguments with
  | .ok (.generate choice output) => filesOf choice output working
  | .ok (.inspect choice) => filesOf choice none working
  | _ => return ⟨[], working, [], []⟩

/-- An entry has to be removed before `after` can stand in its place.  A file is
simply written over by a file. -/
def mustGo (entry : Entry) (after : Option Entry) : Bool :=
  match entry, after with
  | .file _, some (.file _) => false
  | _, _ => after != some entry

def byDepth (entries : List (Location × Entry)) : List (Location × Entry) :=
  entries.mergeSort fun left right => decide (left.1.length ≤ right.1.length)

/-- Make the changes that lead from one tree to another: first remove, then make
directories and write files. -/
def applyChanges (before after : FileTree) : IO Unit := do
  let gone := before.entries.filter fun (location, entry) =>
    mustGo entry (after.contentAt? location)
  for (location, entry) in (byDepth gone).reverse do
    match entry with
    | .directory => IO.FS.removeDirAll (textOf location)
    | _ => IO.FS.removeFile (textOf location)
  let changed := after.entries.filter fun (location, entry) =>
    before.contentAt? location != some entry
  for (location, entry) in byDepth changed do
    match entry with
    | .directory => IO.FS.createDirAll (textOf location)
    | .file bytes => IO.FS.writeBinFile (textOf location) ⟨bytes.toArray⟩
    | .link _ => pure ()

end AddonBindings.Program

open AddonBindings in
/-- Carry out what the arguments ask for. -/
def main (arguments : List String) : IO UInt32 := do
  let before ← Program.filesFor arguments
  let (outcome, after) := CommandLine.execute arguments before
  Program.applyChanges before after
  IO.print outcome.output
  match outcome.ending with
  | .exit code => return code.toUInt32
  | .failed fault =>
      IO.eprintln fault.message
      return 1
  | .unshowable fault =>
      IO.eprintln fault.message
      return 1
