import AddonBindings.Files.Fault
import AddonBindings.Go.SyntaxNode
import AddonBindings.Text.Quoted
import AddonBindings.Text.Utf8

/-!
Contract: the failures of generation that are reported to the user.

Owns: what can be wrong with a configuration, a source or a function, where it
was found, and the wording of the report.

Does not own: failures that end the program, which are in `AddonBindings.Fault`.
-/

namespace AddonBindings

inductive ConfigurationProblem where
  | unreadable (fault : Files.AccessFault)
  | notYaml
  | notMapping
  | noPatterns
  | emptyPattern
  | absolutePattern
  | outputNotText
  /-- No name of an addon; the value is given as the report shows it. -/
  | invalidName (shown : String)
  /-- A problem in the caller's words. -/
  | stated (message : String)
deriving Repr

inductive SourceProblem where
  | unreadable (fault : Files.AccessFault)
  | notUtf8 (fault : Text.Utf8Fault)
  | badSyntax (complaint : Go.SyntaxComplaint)
  /-- A problem in the caller's words. -/
  | stated (message : String)
deriving Repr

/-- Why generation fails. -/
inductive Problem where
  | configuration (problem : ConfigurationProblem)
  | source (problem : SourceProblem)
  /-- A type has no boundary type. -/
  | unsupportedType (raw : String)
  /-- A function has several results. -/
  | multipleResults (count : Int)
  /-- A record states a result type that is no boundary type. -/
  | unsupportedResult (label : String)
  /-- A result type that cannot be converted, in the caller's words. -/
  | statedResult (message : String)
  /-- Any other failure, in the caller's words. -/
  | stated (message : String)
deriving Repr

/-- A failure of generation: the problem, and the file and declaration it was
found in as far as they are known. -/
structure GenerationFault where
  problem : Problem
  file : Option String := none
  declaration : Option String := none
deriving Repr

def ConfigurationProblem.message : ConfigurationProblem → String
  | unreadable fault => "cannot read configuration: " ++ fault.message
  | notYaml => "invalid YAML"
  | notMapping => "configuration must be a mapping"
  | noPatterns => "'files' must be a non-empty list of glob patterns"
  | emptyPattern => "'files' entries must be non-empty strings"
  | absolutePattern => "'files' patterns must be relative to the project directory"
  | outputNotText => "'outputDirectory' must be a string"
  | invalidName shown => "invalid addon name " ++ shown ++ ": must be an identifier"
  | stated message => message

def SourceProblem.message : SourceProblem → String
  | unreadable fault => "cannot read file: " ++ fault.message
  | notUtf8 fault =>
      "not valid UTF-8 at byte " ++ toString fault.start ++ ": " ++ fault.reason.message
  | badSyntax complaint => complaint.message
  | stated message => message

def Problem.message : Problem → String
  | configuration problem => problem.message
  | source problem => problem.message
  | unsupportedType raw => "unsupported type: " ++ raw
  | multipleResults count =>
      "an exported function can only have one return value (found " ++ toString count ++ ")"
  | unsupportedResult label => "unsupported return type: " ++ Text.quoted label
  | statedResult message => message
  | stated message => message

namespace GenerationFault

/-- The file and the declaration, as far as they are known and not empty. -/
def location (fault : GenerationFault) : String :=
  String.intercalate ":"
    ((fault.file.toList ++ fault.declaration.toList).filter fun part => !part.isEmpty)

/-- The report: the location, if there is one, and the problem. -/
def message (fault : GenerationFault) : String :=
  if fault.location.isEmpty then fault.problem.message
  else fault.location ++ ": " ++ fault.problem.message

end GenerationFault

end AddonBindings
