import AddonBindings.Boundary.Basic
import AddonBindings.Decimal.Digits
import AddonBindings.Files.Glob
import AddonBindings.GenerationFault
import AddonBindings.Yaml.Fault

/-!
Contract: the failures of a run.

Owns: the sum of the failures that are reported and of those that end the
program, with the wording of each.

Does not own: the single failures; those are defined where they arise.
-/

namespace AddonBindings

/-- Why a run fails. -/
inductive Fault where
  /-- A failure that is reported to the user. -/
  | generation (fault : GenerationFault)
  /-- A type that is no boundary type. -/
  | unknownBoundary (fault : UnknownBoundary)
  /-- A value that is no name of an addon, with a whole number in it that is too long to
  be written into the report. -/
  | unwritableName
  /-- An access to files. -/
  | access (failure : Files.Failure)
  /-- A text that is no pattern of paths. -/
  | pattern (fault : Files.GlobFault)
  /-- Settings that are no UTF-8. -/
  | undecodable (fault : Text.Utf8Fault)
  /-- A scalar in the settings that does not fit its type. -/
  | scalar (fault : Yaml.ScalarFault)
deriving Repr

/-- The wording of a failure. -/
def Fault.message : Fault → String
  | generation fault => fault.message
  | unknownBoundary fault => fault.message
  | unwritableName =>
      "Exceeds the limit (" ++ toString Decimal.digitLimit ++
        " digits) for integer string conversion; use sys.set_int_max_str_digits() to increase the limit"
  | access failure => failure.message
  | pattern fault => fault.message
  | undecodable fault => fault.message
  | scalar fault => fault.message

def Fault.isReported : Fault → Bool
  | generation _ => true
  | _ => false

end AddonBindings
