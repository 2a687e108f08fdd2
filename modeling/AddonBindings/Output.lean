import AddonBindings.Bindings
import AddonBindings.Files.Change
import AddonBindings.Product
import AddonBindings.Sorting

/-!
Contract: the generated files of a project.

Owns: where they stand, and the replacement of a directory's content by them.

Does not own: the texts of the files, which are in `AddonBindings.Bindings`.
-/

namespace AddonBindings.Output

open AddonBindings.Files

/-- The directory for the generated files of a project, which is only for them. -/
def directory (project : Path) (output : String) : Path :=
  (project.join (Path.ofText output)).child Product.name

def nativePath (directory : Path) (addon : String) : Path :=
  directory.join (Path.ofText (addon ++ ".cc"))

def declarationPath (directory : Path) (addon : String) : Path :=
  directory.join (Path.ofText (addon ++ ".ts"))

/-- Remove entries, one after the other.  Each is first looked at through links, which fails
if the system refuses it. -/
def removeAll : List Path → Change Unit
  | [] => return ()
  | path :: rest => do
      let _ ← observe (isDirectory · path)
      removeEntry path
      removeAll rest

def clear (directory : Path) : Change Unit := do
  let names ← observe (readDirectory · directory)
  removeAll (Sorting.sort Path.le (names.map directory.child))

/-- Make the directory if it is missing, and put the two files into it in place of
everything else.  The answer is their paths. -/
def write (directory : Path) (addon : String) (bindings : Bindings) : Change (List Path) := do
  ensureDirectories directory
  clear directory
  writeFile (nativePath directory addon) (Text.encodeUtf8 bindings.native)
  writeFile (declarationPath directory addon) (Text.encodeUtf8 bindings.declaration)
  return [nativePath directory addon, declarationPath directory addon]

end AddonBindings.Output
