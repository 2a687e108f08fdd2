import AddonBindings.Datum.Written
import AddonBindings.Declaration.Interface
import AddonBindings.GenerationFault
import AddonBindings.Native.Source
import AddonBindings.Text.IdentifierCharacter

/-!
Contract: the two generated files of an addon.

Owns: the names that an addon may have, and the generation of both files or of
none.

Does not own: the texts of the files, which are in `AddonBindings.Native.Source`
and `AddonBindings.Declaration.Interface`.
-/

namespace AddonBindings

/-- The texts of the two generated files. -/
structure Bindings where
  native : String
  declaration : String
deriving DecidableEq, Repr

/-- Why a value is refused as the name of an addon. -/
inductive NameFault where
  /-- It is none, which is reported. -/
  | generation (fault : GenerationFault)
  /-- It is none, and a whole number in it is too long to be written into the report. -/
  | unwritable
deriving Repr

/-- Why there are no bindings: a failure that is reported, a parameter type that is no
boundary type, or a name that is none and cannot be shown in a report. -/
inductive BindingFault where
  | generation (fault : GenerationFault)
  | unknownBoundary (fault : UnknownBoundary)
  | unwritableName
deriving Repr

/-- The characters are an ASCII name, perhaps with one line feed after it. -/
def isAddonName (cs : List Char) : Bool :=
  match cs with
  | [] => false
  | first :: rest =>
      Text.isAsciiNameStart first &&
        (match rest.dropWhile Text.isAsciiNameRest with
        | [] => true
        | ['\n'] => true
        | _ => false)

def refusedName (name : Datum) : NameFault :=
  match name.written? with
  | some shown => .generation ⟨.configuration (.invalidName shown), none, none⟩
  | none => .unwritable

def checkAddonName (name : Datum) : Except NameFault String :=
  match name with
  | .text addon => if isAddonName addon.toList then .ok addon else .error (refusedName name)
  | _ => .error (refusedName name)

/-- A value that is no name, as a failure to make bindings. -/
def NameFault.toBindingFault : NameFault → BindingFault
  | generation fault => .generation fault
  | unwritable => .unwritableName

/-- A native source that cannot be made, as a failure.  A bad result type is
reported with its function. -/
def Native.SourceFault.toBindingFault (fault : Native.SourceFault) : BindingFault :=
  match fault.cause with
  | .parameter cause => .unknownBoundary cause
  | .result label =>
      let function := fault.function
      let file := if function.sourceFile.isEmpty then none else some function.sourceFile
      .generation ⟨.unsupportedResult label, file, some function.name⟩

/-- The bindings of the functions under the given name.  The name is checked
first, and the native source is made before the declarations. -/
def Bindings.generate (functions : List ExportedFunction) (name : Datum) :
    Except BindingFault Bindings := do
  let addon ← (checkAddonName name).mapError NameFault.toBindingFault
  let native ← (Native.source functions addon).mapError Native.SourceFault.toBindingFault
  let declaration ← (Declaration.source functions addon).mapError .unknownBoundary
  return ⟨native, declaration⟩

end AddonBindings
