import AddonBindings.Text.Similarity

/-!
Contract: options among the arguments of a command.

Owns:
- the forms of options: long names, short names, names with a text;
- splitting arguments into the options that are given and the other arguments.

Does not own: the options of the single commands, which are in
`AddonBindings.CommandLine.Usage`.
-/

namespace AddonBindings.CommandLine

/-- An option of a command: its names, whether a text belongs to it, and what it is
for. -/
structure OptionForm where
  long : String
  short : Option String := none
  takesText : Bool := true
  purpose : String
deriving DecidableEq, Repr

/-- What is wrong with the use of a command. -/
inductive UsageFault where
  /-- No option has this name. -/
  | unknownOption (name : String) (alike : List String)
  /-- The text of the option is missing. -/
  | missingText (name : String)
  /-- No text belongs to the option. -/
  | surplusText (name : String)
  /-- No command has this name. -/
  | unknownCommand (name : String) (alike : List String)
  | missingCommand
  | surplusArguments (arguments : List String)
deriving DecidableEq, Repr

structure GivenOption where
  name : String
  text : String := ""
deriving DecidableEq, Repr

/-- The options of one argument; the last may still wait for its text.  It is kept
under the name that was used. -/
structure ReadOptions where
  given : List GivenOption
  waiting : Option (OptionForm × String)
deriving DecidableEq, Repr

/-- The argument is an option: it starts with a hyphen and does not end there. -/
def isOption (argument : String) : Bool :=
  match argument.toList with
  | '-' :: _ :: _ => true
  | _ => false

/-- The name before the first equals sign, and the text after it. -/
def splitAtEquals (argument : List Char) : List Char × Option (List Char) :=
  match argument.dropWhile (· != '=') with
  | [] => (argument, none)
  | _ :: text => (argument.takeWhile (· != '='), some text)

def readLong (forms : List OptionForm) (argument : String) : Except UsageFault ReadOptions :=
  let (nameChars, text) := splitAtEquals argument.toList
  let name := String.ofList nameChars
  match forms.find? fun form => form.long = name with
  | none => .error (.unknownOption name (Text.closeWords (forms.map OptionForm.long) name))
  | some form =>
      match form.takesText, text with
      | true, some text => .ok ⟨[⟨form.long, String.ofList text⟩], none⟩
      | true, none => .ok ⟨[], some (form, name)⟩
      | false, some _ => .error (.surplusText name)
      | false, none => .ok ⟨[⟨form.long, ""⟩], none⟩

/-- The options that letters after one hyphen stand for.  What follows a letter that
takes a text is that text. -/
def readShort (forms : List OptionForm) : List Char → Except UsageFault ReadOptions
  | [] => .ok ⟨[], none⟩
  | letter :: rest => do
      let name := String.ofList ['-', letter]
      match forms.find? fun form => form.short = some name with
      | none => .error (.unknownOption name [])
      | some form =>
          if form.takesText then
            if rest.isEmpty then .ok ⟨[], some (form, name)⟩
            else .ok ⟨[⟨form.long, String.ofList rest⟩], none⟩
          else
            let others ← readShort forms rest
            return ⟨⟨form.long, ""⟩ :: others.given, others.waiting⟩

/-- The options of an argument.  What is no long name is read as letters, unless it
starts with two hyphens. -/
def readOptions (forms : List OptionForm) (argument : String) : Except UsageFault ReadOptions :=
  match readLong forms argument with
  | .error (.unknownOption name alike) =>
      if argument.startsWith "--" then .error (.unknownOption name alike)
      else readShort forms (argument.toList.drop 1)
  | other => other

/-- Arguments as they are read: the options and the other arguments. -/
structure ReadArguments where
  given : List GivenOption
  others : List String
deriving DecidableEq, Repr

def ReadArguments.addOptions (options : List GivenOption) (read : ReadArguments) : ReadArguments :=
  { read with given := options ++ read.given }

def ReadArguments.addOther (argument : String) (read : ReadArguments) : ReadArguments :=
  { read with others := argument :: read.others }

/-- Split arguments into options and others.  Two hyphens end the options.  Unless
`mixed`, the first other argument ends them too. -/
def readArguments (forms : List OptionForm) (mixed : Bool) :
    List String → Except UsageFault ReadArguments
  | [] => .ok ⟨[], []⟩
  | argument :: rest =>
      if argument = "--" then .ok ⟨[], rest⟩
      else if isOption argument then
        match readOptions forms argument with
        | .error fault => .error fault
        | .ok ⟨given, none⟩ => (readArguments forms mixed rest).map (·.addOptions given)
        | .ok ⟨given, some (form, name)⟩ =>
            match rest with
            | [] => .error (.missingText name)
            | text :: later =>
                (readArguments forms mixed later).map
                  (·.addOptions (given ++ [⟨form.long, text⟩]))
      else if mixed then (readArguments forms mixed rest).map (·.addOther argument)
      else .ok ⟨[], argument :: rest⟩

/-- An option was given. -/
def ReadArguments.has (read : ReadArguments) (name : String) : Bool :=
  read.given.any fun option => option.name = name

def ReadArguments.text? (read : ReadArguments) (name : String) : Option String :=
  (read.given.reverse.find? fun option => option.name = name).map GivenOption.text

end AddonBindings.CommandLine
