import AddonBindings.Files.Fault
import AddonBindings.Files.Tree

/-!
Contract: where a path leads.

Owns:
- following names, `..` and symbolic links from a directory that may be searched;
- the limits on names, paths and links;
- the answer that a path leads to an entry, or to a free name in a directory.

Does not own: what is done at the end of the path, which is in
`AddonBindings.Files.Reading` and `AddonBindings.Files.Change`.
-/

namespace AddonBindings.Files

/-- The end of a path. -/
inductive Destination where
  /-- An entry. -/
  | found (location : Location) (entry : Entry)
  /-- A name under which nothing stands in a directory. -/
  | vacant (location : Location)
deriving DecidableEq, Repr

/-- The greatest number of bytes in a name. -/
def nameLimit : Nat := 255

/-- The greatest number of bytes in a path. -/
def pathLimit : Nat := 4095

/-- The greatest number of links on the way. -/
def linkLimit : Nat := 40

/-- The steps that the text of a link target stands for.  A slash at the end, which asks for
a directory, is a step of its own. -/
def targetSteps (target : String) : List String :=
  let parts := (Text.splitText '/' target).filter fun part => !part.isEmpty
  if target.toList.getLast? = some '/' then parts ++ ["/"] else parts

/-- How far a path can be followed without following a link. -/
inductive Leg where
  /-- To its end. -/
  | arrived (destination : Destination)
  /-- To a link, whose target and the steps after it lead on from a directory. -/
  | onward (current : Location) (steps : List String)
deriving DecidableEq, Repr

/-- Follow `steps` from the directory at `current` up to the first link.  A link at the
very end is only followed if `follow` says so. -/
def leg (tree : FileTree) (follow : Bool) (current : Location) :
    List String → Except AccessReason Leg
  | [] => .ok (.arrived (.found current .directory))
  | step :: rest =>
      -- a slash asks for a directory, and every other step looks into it
      if step = "/" then leg tree follow current rest
      else if !tree.isSearchable current then .error .noAccess
      else if step = "." then leg tree follow current rest
      else if step = ".." then leg tree follow current.dropLast rest
      else if nameLimit < step.utf8ByteSize then .error .nameTooLong
      else
        let location := current ++ [step]
        match tree.contentAt? location with
        | none => if rest.isEmpty then .ok (.arrived (.vacant location)) else .error .noEntry
        | some .directory => leg tree follow location rest
        | some (.file bytes) =>
            if rest.isEmpty then .ok (.arrived (.found location (.file bytes)))
            else .error .notDirectory
        | some (.link target) =>
            if rest.isEmpty && !follow then .ok (.arrived (.found location (.link target)))
            else
              let base := if target.startsWith "/" then [] else current
              .ok (.onward base (targetSteps target ++ rest))

/-- Follow `steps` from the directory at `current`, through at most `links` links. -/
def walk (tree : FileTree) (follow : Bool) (links : Nat) (current : Location)
    (steps : List String) : Except AccessReason Destination :=
  match leg tree follow current steps with
  | .error reason => .error reason
  | .ok (.arrived destination) => .ok destination
  | .ok (.onward base further) =>
      match links with
      | 0 => .error .tooManyLinks
      | links + 1 => walk tree follow links base further

/-- The steps of a path.  The working directory is looked into even if the path names nothing
in it. -/
def Path.wayPoints (path : Path) : List String :=
  if path.isAbsolute then path.parts else "." :: path.parts

def resolve (tree : FileTree) (follow : Bool) (path : Path) : Except AccessReason Destination :=
  if pathLimit < path.text.utf8ByteSize then .error .nameTooLong
  else walk tree follow linkLimit (if path.isAbsolute then [] else tree.working) path.wayPoints

def locate (tree : FileTree) (follow : Bool) (path : Path) : Except Failure Destination :=
  if path.text.toList.contains '\x00' then .error .nullCharacter
  else (resolve tree follow path).mapError fun reason => .refused ⟨reason, path.text, none⟩

end AddonBindings.Files
