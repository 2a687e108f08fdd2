import AddonBindings.Bindings
import AddonBindings.Fault
import AddonBindings.Files.Reading
import AddonBindings.Product
import AddonBindings.Yaml.Document

/-!
Contract: the settings of a project.

Owns:
- which documents are settings, and what is wrong with the others;
- reading settings from a file;
- where the settings of a project stand.

Does not own: the YAML format, which is in `AddonBindings.Yaml.Document`, and the
names an addon may have, which are in `AddonBindings.Bindings`.
-/

namespace AddonBindings

/-- The settings of a project: the name of the addon, the patterns of its source
files, and the directory for its output, seen from the project. -/
structure Settings where
  name : Datum
  patterns : List String
  output : String := ""
deriving Repr

/-- A value that is no name of an addon, as a failure of a run; `file` is where the value
was found. -/
def NameFault.toFault (file : Option String) : NameFault → Fault
  | generation fault => .generation { fault with file }
  | unwritable => .unwritableName

namespace Settings

/-- The value under a key of a mapping; null if there is none. -/
def valueUnder (entries : List (Datum × Datum)) (key : String) : Datum :=
  (Datum.lookup? entries key).getD .null

/-- The texts in a list of values, if none of them is empty or something else. -/
def texts? : List Datum → Option (List String)
  | [] => some []
  | .text text :: rest => if text.isEmpty then none else (texts? rest).map (text :: ·)
  | _ :: _ => none

def patternsOf (value : Datum) : Except ConfigurationProblem (List String) :=
  match value with
  | .sequence (first :: rest) =>
      match texts? (first :: rest) with
      | none => .error .emptyPattern
      | some patterns =>
          if patterns.any fun pattern => (Files.Path.ofText pattern).isAbsolute then
            .error .absolutePattern
          else .ok patterns
  | _ => .error .noPatterns

/-- The output directory that a value names.  Every empty value stands for the
project itself. -/
def outputOf (value : Datum) : Except ConfigurationProblem String :=
  if value.isEmpty then .ok ""
  else
    match value with
    | .text output => .ok output
    | _ => .error .outputNotText

/-- The settings in a document that was found in `source`.  The patterns are checked first,
then the output directory, then the name. -/
def ofDatum (document : Datum) (source : String) : Except Fault Settings :=
  let refused (problem : ConfigurationProblem) : Fault :=
    .generation ⟨.configuration problem, some source, none⟩
  match document with
  | .mapping entries => do
      let patterns ← (patternsOf (valueUnder entries "files")).mapError refused
      let output ← (outputOf (valueUnder entries "outputDirectory")).mapError refused
      let name ← (checkAddonName (valueUnder entries "name")).mapError
        (NameFault.toFault (some source))
      return ⟨.text name, patterns, output⟩
  | _ => .error (refused .notMapping)

def ofBytes (source : String) (bytes : List UInt8) : Except Fault Settings := do
  let text ← (Text.decodeUtf8 bytes).mapError .undecodable
  match Yaml.read (String.ofList (Text.foldNewlines text.toList)) with
  | .ok document => ofDatum document source
  | .error .malformed => .error (.generation ⟨.configuration .notYaml, some source, none⟩)
  | .error (.scalar fault) => .error (.scalar fault)

def load (tree : Files.FileTree) (path : Files.Path) : Except Fault Settings :=
  match Files.readFile tree path with
  | .ok bytes => ofBytes path.text bytes
  | .error (.refused fault) =>
      .error (.generation ⟨.configuration (.unreadable fault), some path.text, none⟩)
  | .error .nullCharacter => .error (.access .nullCharacter)

def standardPath (project : Files.Path) : Files.Path :=
  project.child Product.settingsFile

end Settings

end AddonBindings
