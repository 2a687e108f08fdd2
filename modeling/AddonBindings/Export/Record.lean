import AddonBindings.Boundary.Basic
import AddonBindings.Text.LetterCase

/-!
Contract: what is known about an exported function.

Owns: the record of a function with its parameters, and the names derived from
it.

Does not own: where records come from, which is in
`AddonBindings.Export.Extraction`.
-/

namespace AddonBindings

/-- A parameter of an exported function.  A parameter without a type only occurs
in records made by hand. -/
structure Parameter where
  name : String
  type : Option BoundaryType
deriving DecidableEq, Repr

/-- An exported function.  No result type means no result. -/
structure ExportedFunction where
  name : String
  parameters : List Parameter := []
  result : Option BoundaryType := none
  documentation : String := ""
  sourceFile : String := ""
  /-- The line of the declaration, counted from one; zero if it is not known. -/
  line : Int := 0
deriving DecidableEq, Repr

namespace ExportedFunction

/-- The name under which scripts see the function: its first letter in lower case. -/
def scriptName (function : ExportedFunction) : String :=
  Text.lowerFirst function.name

def qualifiedName (function : ExportedFunction) : String :=
  function.sourceFile ++ ":" ++ function.name

/-- The number of parameters. -/
def arity (function : ExportedFunction) : Nat :=
  function.parameters.length

end ExportedFunction

end AddonBindings
