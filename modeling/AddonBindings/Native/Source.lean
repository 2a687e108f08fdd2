import AddonBindings.Native.Wrapper
import AddonBindings.Product

/-!
Contract: the native source file of an addon.

Owns: the file around the callbacks: includes, namespace, registration of every
callback and the module directive.

Does not own: the callbacks, which are in `AddonBindings.Native.Wrapper`.
-/

namespace AddonBindings.Native

/-- The includes: the header that the Go build writes one level up, and the addon
interface. -/
def headerIncludes (addon : String) : List String :=
  ["#include \"../" ++ addon ++ ".h\"", "#include <node.h>"]

/-- The line that registers one callback. -/
def registration (function : ExportedFunction) : String :=
  "NODE_SET_METHOD(exports, \"" ++ function.scriptName ++ "\", " ++ wrapperName function ++ ");"

def initFunction (functions : List ExportedFunction) : List String :=
  "void Init(Local<Object> exports) \x7b" ::
    (functions.map fun function => Text.indentation ++ registration function) ++ ["\x7d"]

/-- The directive that makes the registration the entry point of the addon. -/
def moduleDirective : String := "NODE_MODULE(NODE_GYP_MODULE_NAME, Init)"

/-- The text of the native source around the lines of the callbacks. -/
def sourceText (addon : String) (functions : List ExportedFunction)
    (wrappers : List (List String)) : String :=
  Text.fileText
    (Product.notice :: headerIncludes addon ++
      ["", "namespace " ++ addon ++ " \x7b", "", "using namespace v8;", "using namespace node;", ""] ++
      wrappers.flatMap (· ++ [""]) ++ initFunction functions ++
      ["", moduleDirective, "", "\x7d  // namespace " ++ addon])

/-- A record that has no callback, and why. -/
structure SourceFault where
  function : ExportedFunction
  cause : WrapperFault
deriving DecidableEq, Repr

/-- The text of the native source.  The first record without a callback is the
fault. -/
def source (functions : List ExportedFunction) (addon : String) : Except SourceFault String := do
  let wrappers ← functions.mapM fun function => (wrapper function).mapError (⟨function, ·⟩)
  return sourceText addon functions wrappers

end AddonBindings.Native
