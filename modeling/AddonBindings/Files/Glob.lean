import AddonBindings.Files.NamePattern
import AddonBindings.Files.Reading

/-!
Contract: patterns of paths.

Owns:
- the parts of a pattern, and the texts that are no pattern;
- the paths below a directory that a pattern selects.

Does not own: which of them are source files, which is in
`AddonBindings.Project.Discovery`.
-/

namespace AddonBindings.Files

inductive GlobPart where
  /-- A name that is looked up as it is. -/
  | exact (name : String)
  /-- Every matching name in a directory. -/
  | wildcard (pattern : String)
  /-- The directory itself and all directories below it. -/
  | deep
deriving DecidableEq, Repr

/-- A path pattern: its parts, and whether only directories are selected at the
end. -/
structure Glob where
  parts : List GlobPart
  directoriesOnly : Bool
deriving DecidableEq, Repr

/-- Why a text is no path pattern. -/
inductive GlobFault where
  /-- The text is empty. -/
  | empty
  /-- The pattern does not start at the directory it is applied to. -/
  | absolute
  /-- Two stars are only part of a name. -/
  | partialDeep
  /-- No part is left. -/
  | noPart
  /-- No part is left before the slash at the end. -/
  | noPartBeforeSlash
deriving DecidableEq, Repr

def GlobFault.message : GlobFault → String
  | empty => "Unacceptable pattern: ''"
  | absolute => "Non-relative patterns are unsupported"
  | partialDeep => "Invalid pattern: '**' can only be an entire path component"
  | noPart => "tuple index out of range"
  | noPartBeforeSlash => "'_TerminatingSelector' object has no attribute 'select_from'"

def hasTwoStars : List Char → Bool
  | '*' :: '*' :: _ => true
  | _ :: rest => hasTwoStars rest
  | [] => false

def GlobPart.ofName (name : String) : Except GlobFault GlobPart :=
  if name = "**" then .ok .deep
  else if hasTwoStars name.toList then .error .partialDeep
  else if isNamePattern name then .ok (.wildcard name)
  else .ok (.exact name)

def Glob.ofText (text : String) : Except GlobFault Glob := do
  if text.isEmpty then throw .empty
  let path := Path.ofText text
  if path.isAbsolute then throw .absolute
  let directoriesOnly := text.toList.getLast? = some '/'
  if path.parts.isEmpty then throw (if directoriesOnly then .noPartBeforeSlash else .noPart)
  return ⟨← path.parts.mapM GlobPart.ofName, directoriesOnly⟩

/-- The number of names on the longest way to an entry. -/
def FileTree.depth (tree : FileTree) : Nat :=
  (tree.entries.map fun (location, _) => location.length).max?.getD 0

/-- What an attempt to search gives.  A search ends where access is denied, with nothing more
found. -/
def untilDenied (attempt : Except Failure (List Path)) : Except Failure (List Path) :=
  match attempt with
  | .ok paths => .ok paths
  | .error failure => if failure.isDenied then .ok [] else .error failure

/-- The path of an entry that was listed in a directory.  It keeps the point that stands for
the working directory. -/
def listedPath (path : Path) (name : String) : Path :=
  if path = ⟨.current, []⟩ then ⟨.current, [".", name]⟩ else path.child name

/-- An entry that was listed in the directory at `location` is a directory.  Only a link is
followed for the answer. -/
def isListedDirectory (tree : FileTree) (location : Location) (path : Path) (name : String) :
    Except Failure Bool :=
  match tree.contentAt? (location ++ [name]) with
  | some (.link _) => isDirectory tree (listedPath path name)
  | content => .ok (content == some .directory)

/-- What `select` finds for the names that pass a test, up to the first name whose test is
denied. -/
def selectAmong (test : String → Except Failure Bool)
    (select : String → Except Failure (List Path)) : List String → Except Failure (List Path)
  | [] => .ok []
  | name :: rest =>
      untilDenied do
        if ← test name then return (← select name) ++ (← selectAmong test select rest)
        else selectAmong test select rest

/-- What `select` finds in a directory for the entries whose names match a pattern.  If only
directories are asked for, each entry is looked at before its name. -/
def selectMatching (tree : FileTree) (onlyDirectories : Bool) (pattern : String)
    (select : Path → Except Failure (List Path)) (path : Path) : Except Failure (List Path) :=
  untilDenied do
    let location ← openDirectory tree path
    let test (name : String) : Except Failure Bool := do
      let wanted ← if onlyDirectories then isListedDirectory tree location path name else .ok true
      return wanted && matchesName pattern name
    selectAmong test (select ∘ path.child) (tree.namesIn location)

/-- What `select` finds in a directory and in the directories below it, on up to `levels`
levels.  Links are not followed. -/
def selectDeep (tree : FileTree) (select : Path → Except Failure (List Path)) :
    Nat → Path → Except Failure (List Path)
  | 0, path => select path
  | levels + 1, path => do
      let here ← select path
      let below ← untilDenied do
        let location ← openDirectory tree path
        let names := (tree.namesIn location).filter fun name =>
          tree.contentAt? (location ++ [name]) = some .directory
        return (← names.mapM (selectDeep tree select levels ∘ path.child)).flatten
      return here ++ below

/-- The paths that the parts select, starting from a directory.  There are never more levels
below it than names on the longest way to an entry. -/
def selectFrom (tree : FileTree) (directoriesOnly : Bool) :
    List GlobPart → Path → Except Failure (List Path)
  | [], path => .ok [path]
  | part :: rest, path =>
      let onlyDirectories := directoriesOnly || !rest.isEmpty
      match part with
      | .exact name =>
          let child := path.child name
          untilDenied do
            if ← (if onlyDirectories then isDirectory tree child else isPresent tree child) then
              selectFrom tree directoriesOnly rest child
            else return []
      | .wildcard pattern =>
          selectMatching tree onlyDirectories pattern (selectFrom tree directoriesOnly rest) path
      | .deep =>
          (selectDeep tree (selectFrom tree directoriesOnly rest) (tree.depth + 1) path).map
            List.eraseDups

/-- The paths that a pattern selects below a path; none if that is no directory. -/
def select (tree : FileTree) (base : Path) (pattern : Glob) : Except Failure (List Path) := do
  if ← isDirectory tree base then selectFrom tree pattern.directoriesOnly pattern.parts base
  else return []

end AddonBindings.Files
