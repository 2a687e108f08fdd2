import AddonBindings.Console.Table
import AddonBindings.Declaration.Interface

/-!
Contract: the table of exported functions.

Owns: the columns of the table and what they show of a function.

Does not own: the layout of tables, which is in `AddonBindings.Console.Table`.
-/

namespace AddonBindings.CommandLine

/-- The greatest number of characters of documentation in the table. -/
def documentationLimit : Nat := 60

/-- The start of the first line of a documentation. -/
def documentationStart (documentation : String) : String :=
  let line := documentation.toList.takeWhile (· != '\n')
  String.ofList (line.take documentationLimit)

def placeText (function : ExportedFunction) : String :=
  function.sourceFile ++ ":" ++ toString function.line

def parametersText (function : ExportedFunction) : Except UnknownBoundary String := do
  let parameters ← function.parameters.mapM fun parameter => do
    let type ← Declaration.typeText parameter.type
    return parameter.name ++ ": " ++ type
  return ", ".intercalate parameters

def functionCells (function : ExportedFunction) : Except UnknownBoundary (List String) := do
  let parameters ← parametersText function
  let result ← Declaration.typeText function.result
  return [function.scriptName, parameters, result, placeText function,
    documentationStart function.documentation]

def headings : List String := ["Name", "Parameters", "Returns", "Source", "Documentation"]

def functionTable (functions : List ExportedFunction) : Except UnknownBoundary Console.Table := do
  let rows ← functions.mapM functionCells
  let column (index : Nat) (heading : String) : Console.Column :=
    ⟨heading, rows.map fun row => row.getD index ""⟩
  return ⟨"Exported functions (" ++ toString functions.length ++ " found)", headings.mapIdx column⟩

end AddonBindings.CommandLine
