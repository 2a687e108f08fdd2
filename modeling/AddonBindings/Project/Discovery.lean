import AddonBindings.Fault
import AddonBindings.Files.Glob
import AddonBindings.Sorting

/-!
Contract: the source files of a project.

Owns:
- the directories that are never searched;
- the files that a list of patterns finds, without repetition, in the order of
  the patterns and in path order within each.

Does not own: what a pattern selects, which is in `AddonBindings.Files.Glob`.
-/

namespace AddonBindings.Project

open AddonBindings.Files

/-- The names of directories that are never searched. -/
def skippedDirectories : List String := [".git", "vendor", "node_modules", "testdata"]

/-- The names on the way from the project to a path; all of them with the anchor if
the path does not start like the project. -/
def stepsBelow (project path : Path) : List String :=
  (project.below? path).getD path.steps

/-- The path leads through a directory that is never searched. -/
def isSkipped (project path : Path) : Bool :=
  (stepsBelow project path).dropLast.any skippedDirectories.contains

/-- The path is a source file of the project: it leads to a file, and not through a
skipped directory. -/
def isSource (tree : FileTree) (project path : Path) : Except Failure Bool :=
  if isSkipped project path then .ok false else isFile tree path

/-- What a pattern selects in a project, in path order. -/
def selection (tree : FileTree) (project : Path) (pattern : String) : Except Fault (List Path) := do
  let glob ← (Glob.ofText pattern).mapError .pattern
  let paths ← (select tree project glob).mapError .access
  return Sorting.sort Path.le paths

/-- The source files among `paths` that are neither known nor repeated. -/
def newSources (tree : FileTree) (project : Path) (known : List Path) :
    List Path → Except Failure (List Path)
  | [] => .ok []
  | path :: rest => do
      if known.contains path then newSources tree project known rest
      else if ← isSource tree project path then
        return path :: (← newSources tree project (path :: known) rest)
      else newSources tree project known rest

/-- The source files that patterns find, apart from those that are known. -/
def sourcesAfter (tree : FileTree) (project : Path) (known : List Path) :
    List String → Except Fault (List Path)
  | [] => .ok []
  | pattern :: rest => do
      let paths ← selection tree project pattern
      let found ← (newSources tree project known paths).mapError .access
      return found ++ (← sourcesAfter tree project (found ++ known) rest)

def sources (tree : FileTree) (project : Path) (patterns : List String) :
    Except Fault (List Path) :=
  sourcesAfter tree project [] patterns

end AddonBindings.Project
