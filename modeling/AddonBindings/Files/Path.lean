import AddonBindings.Text.Lines

/-!
Contract: paths as their parts.

Owns:
- reading a path from text and writing it;
- joining, the parent, and the part below another path;
- the order of paths.

Does not own: what a path leads to, which is in `AddonBindings.Files.Resolution`.

A path keeps its `..` parts: which directory they lead to depends on the files.
-/

namespace AddonBindings.Files

/-- Where a path starts.  Two slashes in front are kept apart from one. -/
inductive Anchor where
  | current
  | root
  | doubleRoot
deriving DecidableEq, Repr

def Anchor.text : Anchor → String
  | current => ""
  | root => "/"
  | doubleRoot => "//"

/-- A path: where it starts, and the names from there on. -/
structure Path where
  anchor : Anchor
  parts : List String
deriving DecidableEq, Repr

namespace Path

/-- The anchor that a text starts with: exactly two slashes are special. -/
def anchorOf (text : String) : Anchor :=
  match (text.toList.takeWhile (· = '/')).length with
  | 0 => .current
  | 2 => .doubleRoot
  | _ => .root

/-- The names in a text; empty ones and single points do not count. -/
def partsOf (text : String) : List String :=
  (Text.splitText '/' text).filter fun part => !part.isEmpty && part != "."

def ofText (text : String) : Path :=
  ⟨anchorOf text, partsOf text⟩

/-- The text of a path; the empty path is a point. -/
def text (path : Path) : String :=
  match path.anchor, path.parts with
  | .current, [] => "."
  | anchor, parts => anchor.text ++ String.intercalate "/" parts

/-- The path does not depend on the working directory. -/
def isAbsolute (path : Path) : Bool :=
  path.anchor != .current

/-- The second path seen from the first. -/
def join (base path : Path) : Path :=
  if path.isAbsolute then path else ⟨base.anchor, base.parts ++ path.parts⟩

def child (path : Path) (name : String) : Path :=
  ⟨path.anchor, path.parts ++ [name]⟩

/-- The path without its last name. -/
def parent (path : Path) : Path :=
  ⟨path.anchor, path.parts.dropLast⟩

/-- The names with the anchor, if there is one, in front. -/
def steps (path : Path) : List String :=
  if path.isAbsolute then path.anchor.text :: path.parts else path.parts

def afterFront? : List String → List String → Option (List String)
  | [], whole => some whole
  | _ :: _, [] => none
  | first :: front, other :: whole => if first = other then afterFront? front whole else none

/-- The names of the path below `base`, if it starts like `base`. -/
def below? (base path : Path) : Option (List String) :=
  if base.anchor = path.anchor then afterFront? base.parts path.parts else none

def stepsLe : List String → List String → Bool
  | [], _ => true
  | _ :: _, [] => false
  | left :: lefts, right :: rights =>
      if left = right then stepsLe lefts rights else decide (left < right)

/-- Order of paths: name by name. -/
def le (left right : Path) : Bool :=
  stepsLe left.steps right.steps

@[simp] theorem afterFront?_append (front rest : List String) :
    afterFront? front (front ++ rest) = some rest := by
  induction front with
  | nil => rfl
  | cons first front inductionHypothesis => simp [afterFront?, inductionHypothesis]

/-- A path below another one is that one with more names. -/
theorem below?_child (path : Path) (name : String) : path.below? (path.child name) = some [name] := by
  simp [below?, child]

end Path

end AddonBindings.Files
