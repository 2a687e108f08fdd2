import AddonBindings.Proofs.Files.Destination

/-!
Contract: file systems without links.

Owns:
- the location that steps name if no link is on the way;
- that every path which leads to an entry leads there;
- paths that lead to the same file, told apart by their names alone.

Does not own: where links lead, which is in `AddonBindings.Proofs.Files.Way`.
-/

namespace AddonBindings.Files

variable {tree : FileTree} {follow : Bool} {path other : Path} {current location : Location}
  {entry : Entry} {steps names : List String}

/-! ## The location that steps name -/

/-- One step from a location: a point or a slash stays, two points go back by one name. -/
def settledStep (current : Location) (step : String) : Location :=
  if step = "/" ∨ step = "." then current
  else if step = ".." then current.dropLast
  else current ++ [step]

/-- The location that steps name from another one, links apart. -/
def settled (current : Location) (steps : List String) : Location :=
  steps.foldl settledStep current

private theorem settledStep_name {step : String} (isName : IsEntryName step) :
    settledStep current step = current ++ [step] := by
  rw [settledStep, if_neg (not_or.mpr ⟨isName.1, isName.2.1⟩), if_neg isName.2.2]

theorem settled_append (current : Location) (steps names : List String) :
    settled current (steps ++ names) = settled (settled current steps) names :=
  List.foldl_append

theorem settled_names (areNames : ∀ name ∈ names, IsEntryName name) :
    settled current names = current ++ names := by
  induction names generalizing current with
  | nil => exact (List.append_nil current).symm
  | cons name rest inductionHypothesis =>
      obtain ⟨isName, others⟩ := List.forall_mem_cons.mp areNames
      rw [settled, List.foldl_cons, settledStep_name isName, ← settled, inductionHypothesis others]
      simp

/-- The point in front of a path that starts at the working directory leads nowhere else. -/
theorem settled_wayPoints (current : Location) (path : Path) :
    settled current path.wayPoints = settled current path.parts := by
  rw [Path.wayPoints]
  cases path.isAbsolute with
  | true => rfl
  | false => rfl

/-! ## Ways without links -/

def Entry.isLink : Entry → Bool
  | .link _ => true
  | .file _ | .directory => false

/-- No entry is a link. -/
def FileTree.IsLinkless (tree : FileTree) : Prop :=
  ∀ entry ∈ tree.entries, entry.2.isLink = false

instance (tree : FileTree) : Decidable tree.IsLinkless :=
  inferInstanceAs (Decidable (∀ entry ∈ tree.entries, _))

theorem FileTree.IsLinkless.contentAt?_ne_link (linkless : tree.IsLinkless) (location : Location)
    (target : String) : tree.contentAt? location ≠ some (.link target) := by
  intro content
  by_cases isRoot : location = []
  · rw [contentAt?, if_pos isRoot] at content
    cases content
  · exact Bool.noConfusion (linkless _ (mem_entries_of_contentAt? isRoot content))

theorem Reaches.location_eq_settled (reaches : Reaches tree follow current steps
    (.arrived (.found location entry))) : location = settled current steps := by
  generalize isEnd : Leg.arrived (.found location entry) = reached at reaches
  induction reaches with
  | stay =>
      cases isEnd
      rfl
  | slash _ inductionHypothesis => exact inductionHypothesis isEnd
  | point _ _ inductionHypothesis => exact inductionHypothesis isEnd
  | up _ _ inductionHypothesis => exact inductionHypothesis isEnd
  | directory isName _ _ _ _ inductionHypothesis =>
      rw [settled, List.foldl_cons, settledStep_name isName]
      exact inductionHypothesis isEnd
  | vacant => cases isEnd
  | file isName _ _ _ =>
      cases isEnd
      exact (settledStep_name isName).symm
  | lastLink isName _ _ _ _ =>
      cases isEnd
      exact (settledStep_name isName).symm
  | link => cases isEnd

theorem Reaches.exists_link {base : Location} {further : List String}
    (reaches : Reaches tree follow current steps (.onward base further)) :
    ∃ location target, tree.contentAt? location = some (.link target) := by
  generalize isEnd : Leg.onward base further = reached at reaches
  induction reaches with
  | slash _ inductionHypothesis => exact inductionHypothesis isEnd
  | point _ _ inductionHypothesis => exact inductionHypothesis isEnd
  | up _ _ inductionHypothesis => exact inductionHypothesis isEnd
  | directory _ _ _ _ _ inductionHypothesis => exact inductionHypothesis isEnd
  | link _ _ _ content _ => exact ⟨_, _, content⟩
  | _ => cases isEnd

/-- Without links, a path that leads to an entry leads to the location that it names. -/
theorem location_eq_settled (linkless : tree.IsLinkless)
    (leads : locate tree follow path = .ok (.found location entry)) :
    location = settled (tree.startOf path) path.parts := by
  obtain ⟨-, way⟩ := locate_eq_ok_iff.mp leads
  cases way with
  | arrived last =>
      rw [← settled_wayPoints]
      exact last.location_eq_settled
  | onward first _ =>
      obtain ⟨place, target, content⟩ := first.exists_link
      exact absurd content (linkless.contentAt?_ne_link place target)

/-! ## Paths to the same file -/

def IsFile (tree : FileTree) (path : Path) : Prop :=
  ∃ location bytes, locate tree true path = .ok (.found location (.file bytes))

def SameFile (tree : FileTree) (path other : Path) : Prop :=
  ∃ location bytes, locate tree true path = .ok (.found location (.file bytes)) ∧
    locate tree true other = .ok (.found location (.file bytes))

/-- Without links, two paths lead to one file iff they come to one location when
their steps are taken in order. -/
theorem sameFile_iff (wellFormed : tree.WellFormed)
    (working : tree.contentAt? tree.working = some .directory) (linkless : tree.IsLinkless)
    (isFile : IsFile tree path) (otherIsFile : IsFile tree other) :
    SameFile tree path other ↔
      settled (tree.startOf path) path.parts = settled (tree.startOf other) other.parts := by
  obtain ⟨location, bytes, leads⟩ := isFile
  obtain ⟨otherLocation, otherBytes, otherLeads⟩ := otherIsFile
  rw [← location_eq_settled linkless leads, ← location_eq_settled linkless otherLeads]
  constructor
  · rintro ⟨shared, content, first, second⟩
    rw [leads] at first
    rw [otherLeads] at second
    cases first
    cases second
    rfl
  · rintro rfl
    have here : tree.contentAt? location = some (.file bytes) :=
      stands_of_locate wellFormed working leads
    have same : tree.contentAt? location = some (.file otherBytes) :=
      stands_of_locate wellFormed working otherLeads
    rw [here] at same
    cases same
    exact ⟨location, bytes, leads, otherLeads⟩

end AddonBindings.Files
