import AddonBindings.CommandLine.Listing
import AddonBindings.CommandLine.Request
import AddonBindings.Console.Report
import AddonBindings.Run

/-!
Contract: carrying out what a user asks for.

Owns: what the program prints and how it ends, for every request, and the files
after it.

Does not own: the run itself, which is in `AddonBindings.Run`, and the layout on the
console, which is in `AddonBindings.Console`.
-/

namespace AddonBindings.CommandLine

open AddonBindings.Files
open AddonBindings.Console (MarkupFault escape markupLine messageLine)

inductive Ending where
  /-- With an exit code. -/
  | exit (code : Nat)
  /-- With a failure that is not reported. -/
  | failed (fault : Fault)
  /-- With a text that cannot be shown. -/
  | unshowable (fault : MarkupFault)
deriving Repr

/-- What the program prints, and how it ends. -/
structure Outcome where
  output : String
  ending : Ending
deriving Repr

/-- The lines are printed and then the program ends, unless a line cannot be
shown. -/
def Outcome.print (ending : Ending) : List (Except MarkupFault String) → Outcome
  | [] => ⟨"", ending⟩
  | .error fault :: _ => ⟨"", .unshowable fault⟩
  | .ok line :: rest =>
      let later := Outcome.print ending rest
      ⟨line ++ later.output, later.ending⟩

def ProjectChoice.project (choice : ProjectChoice) : Path :=
  Path.ofText choice.directory

/-- The settings of a choice: those that are named, or those of the project. -/
def ProjectChoice.load (choice : ProjectChoice) (tree : FileTree) : Except Fault Settings :=
  match choice.settings with
  | some name => Settings.load tree (Path.ofText name)
  | none => Settings.load tree (Settings.standardPath choice.project)

def headLine (directory : String) : Except MarkupFault String :=
  markupLine
    (("\n[bold blue]" ++ Product.name ++ "[/] — Generating bindings in: ").toList ++
      escape directory.toList ++ ['\n'])

def failureLines (fault : GenerationFault) : List (Except MarkupFault String) :=
  [ messageLine ⟨.error, fault.message⟩,
    markupLine "\n[red]Generation failed. No files were written.[/]".toList ]

def resultLines (result : RunResult) : List (Except MarkupFault String) :=
  if result.generated then
    [ markupLine
        ("\n[green]Generated bindings for " ++ toString result.functions.length ++
          " function(s).[/]").toList ]
  else []

/-- The lines after the messages: the result, or a failure that is reported. -/
def closingLines : Except Fault RunResult → List (Except MarkupFault String)
  | .ok result => resultLines result
  | .error (.generation fault) => failureLines fault
  | .error _ => []

def generationLines (directory : String) (attempt : Attempt RunResult) :
    List (Except MarkupFault String) :=
  headLine directory :: attempt.messages.map messageLine ++ closingLines attempt.outcome

/-- How a generation ends once its lines are printed. -/
def endingOf : Except Fault RunResult → Ending
  | .ok _ => .exit 0
  | .error (.generation _) => .exit 1
  | .error fault => .failed fault

/-- What is printed for a generation, and how the program ends. -/
def conclusion (directory : String) (attempt : Attempt RunResult) : Outcome :=
  Outcome.print (endingOf attempt.outcome) (generationLines directory attempt)

/-- The generation of the addon of a project, and the files after it.  Without
settings there is only their failure. -/
def generation (choice : ProjectChoice) (output : Option String) (tree : FileTree) :
    Attempt RunResult × FileTree :=
  match choice.load tree with
  | .error fault => (.silent (.error fault), tree)
  | .ok settings =>
      run choice.project { settings with output := output.getD settings.output } tree

def generate (choice : ProjectChoice) (output : Option String) (tree : FileTree) :
    Outcome × FileTree :=
  let (attempt, changed) := generation choice output tree
  (conclusion choice.directory attempt, changed)

def projectFunctions (choice : ProjectChoice) (tree : FileTree) :
    Except Fault (List ExportedFunction) := do
  let settings ← choice.load tree
  let sources ← Project.sources tree choice.project settings.patterns
  (extractFiles tree sources).outcome

def inspect (choice : ProjectChoice) (tree : FileTree) : Outcome :=
  match projectFunctions choice tree with
  | .error (.generation fault) =>
      Outcome.print (.exit 1) [markupLine ("[red]x[/] ".toList ++ escape fault.message.toList)]
  | .error fault => ⟨"", .failed fault⟩
  | .ok [] => Outcome.print (.exit 0) [markupLine "[yellow]No exported functions found.[/]".toList]
  | .ok functions =>
      match functionTable functions with
      | .error fault => ⟨"", .failed (.unknownBoundary fault)⟩
      | .ok table => Outcome.print (.exit 0) [table.print]

def carryOut (request : Request) (tree : FileTree) : Outcome × FileTree :=
  match request with
  | .help page => (⟨page.text, .exit 0⟩, tree)
  | .version => (⟨versionLine, .exit 0⟩, tree)
  | .nothing => (⟨Page.overview.text, .exit 2⟩, tree)
  | .generate choice output => generate choice output tree
  | .inspect choice => (inspect choice tree, tree)

def execute (arguments : List String) (tree : FileTree) : Outcome × FileTree :=
  match request arguments with
  | .error misuse => (⟨misuse.report, .exit 2⟩, tree)
  | .ok request => carryOut request tree

end AddonBindings.CommandLine
