import AddonBindings.Export.File
import AddonBindings.Output
import AddonBindings.Project.Discovery
import AddonBindings.Project.Settings
import AddonBindings.Report

/-!
Contract: a run of the generator on a project.

Owns:
- the preparation, which only looks at the files: discovery, extraction and
  generation, with a message on each step;
- the run, which writes what was prepared;
- the order of the messages.

Does not own: the single steps.  What is written where is in
`AddonBindings.Output`.

A run changes files only after everything has been prepared.
-/

namespace AddonBindings

open AddonBindings.Files

def extractFile (tree : FileTree) (path : Path) : Attempt (List ExportedFunction) := do
  let found ← Attempt.silent (Export.ofFile tree path)
  Attempt.report .info (path.text ++ ": " ++ toString found.length ++ " exported function(s)")
  return found

/-- The exported functions of all files, in the order of the files.  The first
failure ends the extraction. -/
def extractFiles (tree : FileTree) : List Path → Attempt (List ExportedFunction)
  | [] => return []
  | path :: rest => do
      let found ← extractFile tree path
      let others ← extractFiles tree rest
      return found ++ others

structure Addon where
  name : String
  bindings : Bindings
deriving DecidableEq, Repr

/-- What a run has prepared: the sources, their exported functions and, if there are
any functions, the addon. -/
structure Preparation where
  sources : List Path
  functions : List ExportedFunction
  addon : Option Addon
deriving DecidableEq, Repr

/-- A failure to generate bindings, as a failure of the run. -/
def BindingFault.toFault : BindingFault → Fault
  | generation fault => .generation fault
  | unknownBoundary fault => .unknownBoundary fault
  | unwritableName => .unwritableName

def Addon.generate (functions : List ExportedFunction) (name : Datum) : Except Fault Addon := do
  let bindings ← (Bindings.generate functions name).mapError BindingFault.toFault
  let name ← (checkAddonName name).mapError (BindingFault.toFault ∘ NameFault.toBindingFault)
  return ⟨name, bindings⟩

def discoveryMessage (patterns : List String) (sources : List Path) : Message :=
  if sources.isEmpty then ⟨.warning, "No files match " ++ ", ".intercalate patterns⟩
  else ⟨.info, "Parsing " ++ toString sources.length ++ " file(s)"⟩

def prepare (tree : FileTree) (project : Path) (settings : Settings) : Attempt Preparation := do
  let sources ← Attempt.silent (Project.sources tree project settings.patterns)
  let message := discoveryMessage settings.patterns sources
  Attempt.report message.level message.text
  let functions ← extractFiles tree sources
  if functions.isEmpty then
    Attempt.report .warning "No exported functions found"
    return ⟨sources, functions, none⟩
  else
    Attempt.report .info
      ("Generating bindings for: " ++ ", ".intercalate (functions.map ExportedFunction.name))
    let addon ← Attempt.silent (Addon.generate functions settings.name)
    return ⟨sources, functions, some addon⟩

structure RunResult where
  sources : List Path
  functions : List ExportedFunction
  written : List Path
deriving DecidableEq, Repr

def RunResult.generated (result : RunResult) : Bool :=
  !result.written.isEmpty

def writtenMessage (path : Path) : Message :=
  ⟨.success, "Wrote " ++ path.text⟩

/-- Write what was prepared. -/
def finish (project : Path) (settings : Settings) (preparation : Preparation)
    (tree : FileTree) : Attempt RunResult × FileTree :=
  match preparation.addon with
  | none => (.done ⟨preparation.sources, preparation.functions, []⟩, tree)
  | some addon =>
      let directory := Output.directory project settings.output
      match (Output.write directory addon.name addon.bindings).run.run tree with
      | (.ok written, changed) =>
          (⟨written.map writtenMessage, .ok ⟨preparation.sources, preparation.functions, written⟩⟩,
            changed)
      | (.error failure, changed) => (.silent (.error (.access failure)), changed)

/-- Generate the addon of a project: the messages with the result or the failure, and
the files after it. -/
def run (project : Path) (settings : Settings) (tree : FileTree) :
    Attempt RunResult × FileTree :=
  let prepared := prepare tree project settings
  match prepared.outcome with
  | .error fault => (⟨prepared.messages, .error fault⟩, tree)
  | .ok preparation =>
      let (finished, changed) := finish project settings preparation tree
      (⟨prepared.messages ++ finished.messages, finished.outcome⟩, changed)

end AddonBindings
