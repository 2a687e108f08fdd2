import AddonBindings.Text.Quoted

/-!
Contract: why an access to the file system fails.

Owns: the reasons with their numbers and wording, and the message that names the
path.

Does not own: when an access fails, which is in `AddonBindings.Files.Resolution`
and `AddonBindings.Files.Reading`.
-/

namespace AddonBindings.Files

inductive AccessReason where
  | noEntry
  | noAccess
  | entryExists
  | notDirectory
  | isDirectory
  | nameTooLong
  | tooManyLinks
deriving DecidableEq, Repr

/-- The number under which the system reports a reason. -/
def AccessReason.code : AccessReason → Nat
  | noEntry => 2
  | noAccess => 13
  | entryExists => 17
  | notDirectory => 20
  | isDirectory => 21
  | nameTooLong => 36
  | tooManyLinks => 40

def AccessReason.text : AccessReason → String
  | noEntry => "No such file or directory"
  | noAccess => "Permission denied"
  | entryExists => "File exists"
  | notDirectory => "Not a directory"
  | isDirectory => "Is a directory"
  | nameTooLong => "File name too long"
  | tooManyLinks => "Too many levels of symbolic links"

/-- For this reason, nothing stands where a path leads. -/
def AccessReason.meansAbsent : AccessReason → Bool
  | noEntry | notDirectory | tooManyLinks => true
  | noAccess | entryExists | isDirectory | nameTooLong => false

/-- A refused access: the reason, the path as the caller wrote it, and the second
path where the access names two. -/
structure AccessFault where
  reason : AccessReason
  path : String
  destination : Option String := none
deriving DecidableEq, Repr

def AccessFault.message (fault : AccessFault) : String :=
  let paths :=
    match fault.destination with
    | none => Text.quoted fault.path
    | some other => Text.quoted fault.path ++ " -> " ++ Text.quoted other
  "[Errno " ++ toString fault.reason.code ++ "] " ++ fault.reason.text ++ ": " ++ paths

/-- Why an access fails. -/
inductive Failure where
  /-- The system refuses it. -/
  | refused (fault : AccessFault)
  /-- The path holds a null character, so the system is not asked. -/
  | nullCharacter
deriving DecidableEq, Repr

def Failure.isDenied : Failure → Bool
  | refused fault => fault.reason == .noAccess
  | nullCharacter => false

/-- The wording of a failed access. -/
def Failure.message : Failure → String
  | refused fault => fault.message
  | nullCharacter => "embedded null byte"

end AddonBindings.Files
