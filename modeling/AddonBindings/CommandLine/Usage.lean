import AddonBindings.CommandLine.Argument
import AddonBindings.Product
import AddonBindings.Text.Quoted

/-!
Contract: what the program tells about its use.

Owns:
- the commands and their options;
- the help pages;
- the reports of wrong use.

Does not own: reading the arguments, which is in
`AddonBindings.CommandLine.Request`.
-/

namespace AddonBindings.CommandLine

def program : String := "main"

inductive Command where
  | generate
  | inspect
deriving DecidableEq, Repr

namespace Command

/-- All commands, in the order of the help page. -/
def all : List Command := [.generate, .inspect]

def name : Command → String
  | generate => "generate"
  | inspect => "inspect"

def ofName? (name : String) : Option Command :=
  all.find? fun command => command.name = name

def purpose : Command → String
  | generate => "Generate the C++ addon and TypeScript declarations."
  | inspect => "Show the exported functions that would be bound, without writing anything."

/-- What a command does, as short as the overview needs it. -/
def summary : Command → String
  | generate => "Generate the C++ addon and TypeScript declarations."
  | inspect => "Show the exported functions that would be bound, without..."

end Command

def helpOption : OptionForm :=
  { long := "--help", takesText := false, purpose := "Show this message and exit." }

def versionOption : OptionForm :=
  { long := "--version", takesText := false, purpose := "Show the version and exit." }

def projectOption : OptionForm :=
  { long := "--dir", purpose := "Project directory containing " ++ Product.settingsFile }

def settingsOption : OptionForm :=
  { long := "--config"
    purpose := "Configuration file (default: <dir>/" ++ Product.settingsFile ++ ")" }

def outputOption : OptionForm :=
  { long := "--output", short := some "-o", purpose := "Override the configured output directory" }

def programOptions : List OptionForm := [versionOption, helpOption]

def Command.options : Command → List OptionForm
  | .generate => [projectOption, settingsOption, outputOption, helpOption]
  | .inspect => [projectOption, settingsOption, helpOption]

def indented (line : String) : String := "  " ++ line

/-- Rows of two columns, the second as far to the right as the widest row needs. -/
def twoColumns (rows : List (String × String)) : List String :=
  let width := (((rows.map fun row => row.1.length).max?).getD 0) + 2
  rows.map fun (left, right) =>
    indented (left ++ String.ofList (List.replicate (width - left.length) ' ') ++ right)

def OptionForm.names (form : OptionForm) : String :=
  let names := ", ".intercalate (form.short.toList ++ [form.long])
  if form.takesText then names ++ " TEXT" else names

def optionLines (forms : List OptionForm) : List String :=
  "Options:" :: twoColumns (forms.map fun form => (form.names, form.purpose))

/-- A page of the help: of the program or of a command. -/
inductive Page where
  | overview
  | command (command : Command)
deriving DecidableEq, Repr

/-- How the thing that a page is about is called. -/
def Page.path : Page → String
  | .overview => program
  | .command chosen => program ++ " " ++ chosen.name

/-- The first line of a page. -/
def Page.usage (page : Page) : String :=
  match page with
  | .overview => "Usage: " ++ page.path ++ " [OPTIONS] COMMAND [ARGS]..."
  | .command _ => "Usage: " ++ page.path ++ " [OPTIONS]"

def Page.lines (page : Page) : List String :=
  match page with
  | .overview =>
      [ page.usage, "",
        indented (Product.name ++ " — build Node.js addons from Go."), "",
        indented "Finds Go functions marked with an //export comment and writes a C++ addon",
        indented "wrapper plus TypeScript declarations for them.", "" ] ++
        optionLines programOptions ++ ["", "Commands:"] ++
        twoColumns (Command.all.map fun command => (command.name, command.summary))
  | .command chosen =>
      [page.usage, "", indented chosen.purpose, ""] ++ optionLines chosen.options

def textOfLines (lines : List String) : String :=
  "".intercalate (lines.map (· ++ "\n"))

def Page.text (page : Page) : String := textOfLines page.lines

def versionLine : String := program ++ ", version " ++ Product.version ++ "\n"

/-- A suggestion of names that are like the one that was given. -/
def suggestion (alike : List String) (several : String) : String :=
  match alike with
  | [] => ""
  | [one] => " Did you mean " ++ Text.quoted one ++ "?"
  | _ =>
      let names := Sorting.sort (fun left right => decide (left ≤ right)) alike
      " (" ++ several ++ ": " ++ ", ".intercalate (names.map Text.quoted) ++ ")"

/-- The wording of wrong use. -/
def UsageFault.message : UsageFault → String
  | unknownOption name alike =>
      "No such option " ++ Text.quoted name ++ "." ++ suggestion alike "Possible options"
  | missingText name => "Option " ++ Text.quoted name ++ " requires an argument."
  | surplusText name => "Option " ++ Text.quoted name ++ " does not take a value."
  | unknownCommand name alike =>
      "No such command " ++ Text.quoted name ++ "." ++ suggestion alike "Possible commands"
  | missingCommand => "Missing command."
  | surplusArguments arguments =>
      "Got unexpected extra argument" ++ (if arguments.length = 1 then "" else "s") ++ " (" ++
        " ".intercalate arguments ++ ")"

/-- The report names only the option, and not the command that it was given to. -/
def UsageFault.isAboutText : UsageFault → Bool
  | missingText _ | surplusText _ => true
  | _ => false

/-- The report of wrong use, found on reading the arguments that a page is about. -/
def UsageFault.report (fault : UsageFault) (page : Page) : String :=
  let front :=
    if fault.isAboutText then []
    else [page.usage, "Try '" ++ page.path ++ " " ++ helpOption.long ++ "' for help.", ""]
  textOfLines (front ++ ["Error: " ++ fault.message])

end AddonBindings.CommandLine
