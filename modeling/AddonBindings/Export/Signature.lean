import AddonBindings.Export.Record
import AddonBindings.Go.Syntax

/-!
Contract: the boundary types of a function's signature.

Owns:
- the parameters of a record, with names for unnamed ones;
- the result of a record;
- which signatures are refused, and why.

Does not own: the function around the signature, which is in
`AddonBindings.Export.Extraction`.
-/

namespace AddonBindings.Export

open AddonBindings.Go

inductive SignatureFault where
  | unsupportedType (raw : String)
  | multipleResults (count : Nat)
deriving DecidableEq, Repr

def boundaryType (type : TypeSyntax) : Except SignatureFault BoundaryType :=
  type.expression.boundary.mapError fun fault => .unsupportedType fault.raw

/-- A variadic parameter is refused under the text of its type. -/
def variadicFault (type : TypeSyntax) : SignatureFault :=
  .unsupportedType ("..." ++ type.text)

/-- The parameters of one declaration, of which `before` precede it.  A
declaration without names gets one name made from its position. -/
def declaredParameters (before : Nat) (names : List String) (type : BoundaryType) :
    List Parameter :=
  match names with
  | [] => [⟨"arg" ++ toString before, some type⟩]
  | _ => names.map fun name => ⟨name, some type⟩

/-- The parameters of a list, of which `before` precede it. -/
def parametersAfter (before : Nat) : List ParameterItem → Except SignatureFault (List Parameter)
  | [] => .ok []
  | .comment _ :: rest => parametersAfter before rest
  | .variadic _ type :: _ => .error (variadicFault type)
  | .declared names type :: rest => do
      let boundary ← boundaryType type
      let declared := declaredParameters before names boundary
      let others ← parametersAfter (before + declared.length) rest
      return declared ++ others

def parameters (items : List ParameterItem) : Except SignatureFault (List Parameter) :=
  parametersAfter 0 items

/-- The number of results of one item.  A declaration without names is one. -/
def resultCount : ParameterItem → Nat
  | .comment _ => 0
  | .declared names _ => max 1 names.length
  | .variadic _ _ => 1

def countResults : List ParameterItem → Nat
  | [] => 0
  | item :: rest => resultCount item + countResults rest

/-- The type of the first item that is no comment. -/
def firstResult : List ParameterItem → Except SignatureFault (Option BoundaryType)
  | [] => .ok none
  | .comment _ :: rest => firstResult rest
  | .variadic _ type :: _ => .error (variadicFault type)
  | .declared _ type :: _ => (boundaryType type).map some

/-- The result of a function.  The number of results is looked at before their
types. -/
def result : ResultSyntax → Except SignatureFault (Option BoundaryType)
  | .absent => .ok none
  | .single type => (boundaryType type).map some
  | .listed items =>
      let count := countResults items
      if 1 < count then .error (.multipleResults count) else firstResult items

/-- The parameters and the result of a function, looked at in this order. -/
def signature (declaration : FunctionDeclaration) :
    Except SignatureFault (List Parameter × Option BoundaryType) := do
  let taken ← parameters declaration.parameters
  let given ← result declaration.result
  return (taken, given)

end AddonBindings.Export
