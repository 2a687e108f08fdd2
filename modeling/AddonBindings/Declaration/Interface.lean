import AddonBindings.Export.Record
import AddonBindings.Product
import AddonBindings.Text.Layout
import AddonBindings.Text.Lines

/-!
Contract: the typed declarations of an addon.

Owns: the interface with one member for every exported function, the block that
documents a member, and the binding of the addon to the interface.

Does not own: the native side, which is in `AddonBindings.Native.Source`.
-/

namespace AddonBindings.Declaration

/-- The name of the interface: the addon's name with its first letter in upper case. -/
def interfaceName (addon : String) : String :=
  Text.upperFirst addon

/-- The declared type; a result that is not stated is void. -/
def typeText : Option BoundaryType → Except UnknownBoundary String
  | none => .ok "void"
  | some .text => .ok "string"
  | some .numeric => .ok "number"
  | some (.foreign label) => .error ⟨some label⟩

def parameterText (parameter : Parameter) : Except UnknownBoundary String :=
  (typeText parameter.type).map (parameter.name ++ ": " ++ ·)

def member (function : ExportedFunction) : Except UnknownBoundary String := do
  let parameters ← function.parameters.mapM parameterText
  let result ← typeText function.result
  return function.scriptName ++ ": (" ++ String.intercalate ", " parameters ++ ") => " ++
    result ++ ";"

/-- The characters of a line with every end of a block comment taken apart. -/
def breakBlockEnds : List Char → List Char
  | '*' :: '/' :: rest => '*' :: '\\' :: '/' :: breakBlockEnds rest
  | c :: rest => c :: breakBlockEnds rest
  | [] => []

def documentationLine (line : List Char) : String :=
  if line.isEmpty then " *" else " * " ++ String.ofList (breakBlockEnds line)

/-- The block that documents a member; nothing if there is no documentation. -/
def documentationBlock (documentation : String) : List String :=
  if documentation.isEmpty then []
  else
    "/**" :: (Text.splitAtMark '\n' documentation.toList).map documentationLine ++ [" */"]

def memberLines (function : ExportedFunction) : Except UnknownBoundary (List String) :=
  (member function).map fun line =>
    (documentationBlock function.documentation ++ [line]).map (Text.indentation ++ ·)

def addonBinding (addon : String) : List String :=
  [ "const addon: " ++ interfaceName addon ++ " = require(\"" ++ addon ++ "\");",
    "",
    "export default addon;" ]

/-- The text of the declarations.  The first type that is no boundary type is the
fault. -/
def source (functions : List ExportedFunction) (addon : String) :
    Except UnknownBoundary String := do
  let members ← functions.mapM memberLines
  return Text.fileText
    ([Product.notice, "export interface " ++ interfaceName addon ++ " \x7b"] ++
      [""].intercalate members ++ ["\x7d", ""] ++ addonBinding addon)

end AddonBindings.Declaration
