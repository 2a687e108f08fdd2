import AddonBindings.Files.Resolution

/-!
Contract: looking at files without changing them.

Owns: the content of files, the names in directories, and the questions whether
a path leads to a file, a directory or anything.

Does not own: changes, which are in `AddonBindings.Files.Change`.
-/

namespace AddonBindings.Files

def refusal {α : Type} (reason : AccessReason) (path : Path) : Except Failure α :=
  .error (.refused ⟨reason, path.text, none⟩)

def readFile (tree : FileTree) (path : Path) : Except Failure (List UInt8) := do
  match ← locate tree true path with
  | .found location entry =>
      if !tree.isReadable location then refusal .noAccess path
      else
        match entry with
        | .file bytes => .ok bytes
        | .directory => refusal .isDirectory path
        | .link _ => refusal .tooManyLinks path
  | .vacant _ => refusal .noEntry path

def openDirectory (tree : FileTree) (path : Path) : Except Failure Location := do
  match ← locate tree true path with
  | .found location .directory =>
      if tree.isReadable location then .ok location else refusal .noAccess path
  | .found _ _ => refusal .notDirectory path
  | .vacant _ => refusal .noEntry path

def readDirectory (tree : FileTree) (path : Path) : Except Failure (List String) :=
  (openDirectory tree path).map tree.namesIn

/-- The entry that a path leads to.  A path that leads nowhere has none; a path that is too
long or may not be followed is a failure. -/
def entryAt (tree : FileTree) (follow : Bool) (path : Path) : Except Failure (Option Entry) :=
  match locate tree follow path with
  | .ok (.found _ entry) => .ok (some entry)
  | .ok (.vacant _) => .ok none
  | .error .nullCharacter => .ok none
  | .error (.refused fault) =>
      if fault.reason.meansAbsent then .ok none else .error (.refused fault)

def isPresent (tree : FileTree) (path : Path) : Except Failure Bool :=
  (entryAt tree true path).map Option.isSome

def isDirectory (tree : FileTree) (path : Path) : Except Failure Bool :=
  (entryAt tree true path).map fun entry => entry == some .directory

def isFile (tree : FileTree) (path : Path) : Except Failure Bool :=
  (entryAt tree true path).map fun entry =>
    match entry with
    | some (.file _) => true
    | _ => false

end AddonBindings.Files
