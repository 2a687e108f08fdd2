import AddonBindings.Files.Path

/-!
Contract: the state of a file system.

Owns:
- entries under their locations, what may be read of them, and the working directory;
- looking up, placing and removing entries;
- the laws that say what a change does to each location.

Does not own: how a path leads to a location, which is in
`AddonBindings.Files.Resolution`, and who may change an entry: everybody may.
-/

namespace AddonBindings.Files

/-- What stands at a location. -/
inductive Entry where
  | file (bytes : List UInt8)
  | directory
  /-- A symbolic link with the text of its target. -/
  | link (target : String)
deriving DecidableEq, Repr

/-- The names that lead from the root to an entry, without links on the way. -/
abbrev Location := List String

/-- A file system: its entries below the root, and the working directory. -/
structure FileTree where
  entries : List (Location × Entry)
  working : Location
  /-- The directories in which no name may be looked up. -/
  unsearchable : List Location := []
  /-- The directories that may not be listed, and the files that may not be read. -/
  unreadable : List Location := []
deriving DecidableEq, Repr

namespace FileTree

/-- What stands at a location.  The root is always a directory. -/
def contentAt? (tree : FileTree) (location : Location) : Option Entry :=
  if location = [] then some .directory else tree.entries.lookup location

/-- Names may be looked up in the directory at a location. -/
def isSearchable (tree : FileTree) (location : Location) : Bool :=
  !tree.unsearchable.contains location

/-- The directory at a location may be listed, or the file there read. -/
def isReadable (tree : FileTree) (location : Location) : Bool :=
  !tree.unreadable.contains location

/-- The location is `parent` or inside of it. -/
def isWithin (parent location : Location) : Bool :=
  parent.isPrefixOf location

/-- The name of a location directly inside `parent`. -/
def nameIn? (parent location : Location) : Option String :=
  match Path.afterFront? parent location with
  | some [name] => some name
  | _ => none

def namesIn (tree : FileTree) (parent : Location) : List String :=
  tree.entries.filterMap fun (location, _) => nameIn? parent location

/-- The tree with another entry at a location, where something stands already. -/
def overwrite (tree : FileTree) (location : Location) (entry : Entry) : FileTree :=
  { tree with
    entries := (location, entry) :: tree.entries.filter fun (other, _) => other != location }

/-- The tree with a new entry at a location, which may be searched and read. -/
def place (tree : FileTree) (location : Location) (entry : Entry) : FileTree :=
  { tree.overwrite location entry with
    unsearchable := tree.unsearchable.filter (· != location)
    unreadable := tree.unreadable.filter (· != location) }

/-- The tree without a location and everything inside of it. -/
def remove (tree : FileTree) (location : Location) : FileTree :=
  { tree with entries := tree.entries.filter fun (other, _) => !isWithin location other }

/-- Look-up passes over entries that a filter on locations drops. -/
theorem lookup_filter (keep : Location → Bool) (location : Location)
    (kept : keep location = true) (entries : List (Location × Entry)) :
    (entries.filter fun (other, _) => keep other).lookup location = entries.lookup location := by
  induction entries with
  | nil => rfl
  | cons first rest inductionHypothesis =>
      obtain ⟨other, entry⟩ := first
      by_cases same : location = other
      · subst same
        simp [kept]
      · have differs : (location == other) = false := by simpa using same
        by_cases keepsOther : keep other = true
        · simp [keepsOther, List.lookup_cons, differs, inductionHypothesis]
        · simp [keepsOther, List.lookup_cons, differs, inductionHypothesis]

/-- A placed entry stands at its location. -/
theorem contentAt?_place_self
    (tree : FileTree) {location : Location} (entry : Entry) (below : location ≠ []) :
    (tree.place location entry).contentAt? location = some entry := by
  simp [contentAt?, place, overwrite, below]

/-- Placing an entry changes no other location. -/
theorem contentAt?_place_of_ne
    (tree : FileTree) {location other : Location} (entry : Entry) (differs : other ≠ location) :
    (tree.place location entry).contentAt? other = tree.contentAt? other := by
  have notSame : (other == location) = false := by simpa using differs
  have rest :
      (tree.entries.filter fun (place, _) => place != location).lookup other =
        tree.entries.lookup other :=
    lookup_filter (fun place => place != location) other (by simpa using differs) tree.entries
  simp only [contentAt?, place, overwrite, List.lookup_cons, notSame, rest]

/-- Removal changes nothing outside of the location. -/
theorem contentAt?_remove_of_outside
    (tree : FileTree) {location other : Location} (outside : isWithin location other = false) :
    (tree.remove location).contentAt? other = tree.contentAt? other := by
  have rest :
      (tree.entries.filter fun (place, _) => !isWithin location place).lookup other =
        tree.entries.lookup other :=
    lookup_filter (fun place => !isWithin location place) other (by simpa using outside) tree.entries
  simp only [contentAt?, remove, rest]

end FileTree

end AddonBindings.Files
