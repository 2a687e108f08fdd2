import AddonBindings.CommandLine.Usage

/-!
Contract: what a user asks for.

Owns: the requests, and how arguments spell them.

Does not own: carrying out a request, which is in
`AddonBindings.CommandLine.Execution`.
-/

namespace AddonBindings.CommandLine

/-- A project as a user names it, with the settings file if one is named. -/
structure ProjectChoice where
  directory : String
  settings : Option String
deriving DecidableEq, Repr

/-- What a user asks for. -/
inductive Request where
  | help (page : Page)
  | version
  /-- Nothing: there are no arguments. -/
  | nothing
  /-- Generate an addon, perhaps into another output directory. -/
  | generate (choice : ProjectChoice) (output : Option String)
  /-- Show what would be generated. -/
  | inspect (choice : ProjectChoice)
deriving DecidableEq, Repr

/-- Wrong use, with the page on what was used. -/
structure Misuse where
  fault : UsageFault
  page : Page
deriving DecidableEq, Repr

def Misuse.report (misuse : Misuse) : String :=
  misuse.fault.report misuse.page

/-- The project that options name; the working directory if none does.  An empty name
of a settings file counts as none. -/
def projectChoice (read : ReadArguments) : ProjectChoice where
  directory := (read.text? projectOption.long).getD "."
  settings := (read.text? settingsOption.long).filter fun name => !name.isEmpty

def commandRequest (command : Command) (arguments : List String) : Except Misuse Request := do
  let refuse (fault : UsageFault) : Misuse := ⟨fault, .command command⟩
  let read ← (readArguments command.options true arguments).mapError refuse
  if read.has helpOption.long then return .help (.command command)
  if !read.others.isEmpty then throw (refuse (.surplusArguments read.others))
  match command with
  | .generate => return .generate (projectChoice read) (read.text? outputOption.long)
  | .inspect => return .inspect (projectChoice read)

/-- The request for information that the first option of the program spells. -/
def informationRequest? (read : ReadArguments) : Option Request :=
  match read.given with
  | [] => none
  | first :: _ =>
      if first.name = versionOption.long then some .version else some (.help .overview)

def programMisuse (fault : UsageFault) : Misuse := ⟨fault, .overview⟩

/-- The request of arguments whose first is no command.  What looks like an option is
read as one, even if it stands after two hyphens. -/
def unknownCommandRequest (name : String) (rest : List String) : Except Misuse Request := do
  let unknown :=
    programMisuse (.unknownCommand name (Text.closeWords (Command.all.map Command.name) name))
  let read ← (readArguments programOptions false (name :: rest)).mapError programMisuse
  match informationRequest? read with
  | some request => return request
  | none => throw unknown

def request (arguments : List String) : Except Misuse Request := do
  if arguments.isEmpty then return .nothing
  let read ← (readArguments programOptions false arguments).mapError programMisuse
  match informationRequest? read with
  | some request => return request
  | none =>
      match read.others with
      | [] => throw (programMisuse .missingCommand)
      | name :: rest =>
          match Command.ofName? name with
          | some command => commandRequest command rest
          | none => unknownCommandRequest name rest

end AddonBindings.CommandLine
