import AddonBindings.Export.Record
import AddonBindings.Native.Statement

/-!
Contract: the native callback around one exported function.

Owns:
- the names of the callback and of its local variables;
- the checks and conversions of the arguments, the call and the return of the
  result, as statements in their order;
- which records have no callback, and why.

Does not own: the file around the callbacks, which is in
`AddonBindings.Native.Source`.
-/

namespace AddonBindings.Native

/-- Why a record has no callback. -/
inductive WrapperFault where
  /-- The result type is no boundary type. -/
  | result (label : String)
  /-- A parameter type is no boundary type. -/
  | parameter (fault : UnknownBoundary)
deriving DecidableEq, Repr

def wrapperName (function : ExportedFunction) : String :=
  function.name ++ "_Func"

def localName (parameter : Parameter) : String :=
  "go_" ++ parameter.name

def argumentCountCheck (count : Int) : Statement :=
  .guardThat (.fewerArguments count)
    ("Wrong number of arguments (expected " ++ toString count ++ ")")

def wrongTypeMessage (parameter : Parameter) (expected : String) : String :=
  "Wrong type for argument '" ++ parameter.name ++ "' (expected " ++ expected ++ ")"

def argumentTypeCheck (index : Int) (parameter : Parameter) : Except UnknownBoundary Statement :=
  match parameter.type with
  | some .text => .ok (.guardThat (.notText index) (wrongTypeMessage parameter "string"))
  | some .numeric => .ok (.guardThat (.notNumber index) (wrongTypeMessage parameter "number"))
  | some (.foreign label) => .error ⟨some label⟩
  | none => .error ⟨none⟩

/-- The conversion of one argument.  Whatever is no text is taken as a number. -/
def argumentConversion (index : Int) (parameter : Parameter) : Statement :=
  match parameter.type with
  | some .text => .takeText (localName parameter) index
  | _ => .takeNumber (localName parameter) index

def delegateCall (function : ExportedFunction) : Statement :=
  .call function.name (function.parameters.map localName) function.result.isSome

/-- The return of the result; nothing if there is none. -/
def returnConversion : Option BoundaryType → Except String (List Statement)
  | none => .ok []
  | some .text => .ok [.giveBack .text]
  | some .numeric => .ok [.giveBack .number]
  | some (.foreign label) => .error label

def indexed (parameters : List Parameter) : List (Int × Parameter) :=
  parameters.zipIdx.map fun (parameter, index) => (Int.ofNat index, parameter)

/-- The statements of the callback, in order.  The result type is looked at before
the parameter types. -/
def wrapperBody (function : ExportedFunction) : Except WrapperFault (List Statement) := do
  let returned ← (returnConversion function.result).mapError .result
  let positions := indexed function.parameters
  let checks ←
    (positions.mapM fun (index, parameter) => argumentTypeCheck index parameter).mapError .parameter
  let conversions := positions.map fun (index, parameter) => argumentConversion index parameter
  return [.declareIsolate, .declareScope, .blank,
      .remark "Check the number of arguments passed.",
      argumentCountCheck (Int.ofNat function.arity)] ++
    checks ++ [.blank] ++ conversions ++
    [.blank, .remark "Call the function exported from Go.", delegateCall function] ++ returned

def wrapperLines (function : ExportedFunction) (body : List Statement) : List String :=
  ("void " ++ wrapperName function ++ "(const FunctionCallbackInfo<Value> &args) \x7b") ::
    (Text.indent (body.flatMap Statement.lines) ++ ["\x7d"])

def wrapper (function : ExportedFunction) : Except WrapperFault (List String) :=
  (wrapperBody function).map (wrapperLines function)

end AddonBindings.Native
