import AddonBindings.Proofs.Files.Way
import AddonBindings.Proofs.Traversal

/-!
Contract: where paths lead.

Owns:
- a path that the system follows, and the way it stands for;
- what stands where a path leads;
- the directories that can be opened;
- where a path to a name in a directory leads;
- the law that a path leads to the same entry in a larger file system.

Does not own: changes, which are in `AddonBindings.Proofs.Files.Effect`.
-/

namespace AddonBindings.Files

variable {tree small big : FileTree} {follow : Bool} {path directory : Path} {name : String}
  {place location : Location} {entry : Entry} {destination : Destination}

/-! ## Paths that the system follows -/

/-- The text of the path is one that the system takes. -/
structure Path.IsPassable (path : Path) : Prop where
  plain : '\x00' ∉ path.text.toList
  short : path.text.utf8ByteSize ≤ pathLimit

/-- A path leads somewhere iff it may be passed to the system and there is a way. -/
theorem locate_eq_ok_iff :
    locate tree follow path = .ok destination ↔
      path.IsPassable ∧
        Way tree follow destination linkLimit (tree.startOf path) path.wayPoints := by
  rw [locate, resolve, ← walk_eq_ok_iff, FileTree.startOf]
  by_cases hasNull : path.text.toList.contains '\x00' = true
  · rw [if_pos hasNull]
    refine ⟨fun same => (by cases same), fun ⟨passable, _⟩ => ?_⟩
    exact absurd (by simpa using hasNull) passable.plain
  rw [if_neg hasNull]
  by_cases tooLong : pathLimit < path.text.utf8ByteSize
  · rw [if_pos tooLong]
    refine ⟨fun same => (by cases same), fun ⟨passable, _⟩ => ?_⟩
    exact absurd passable.short (by omega)
  rw [if_neg tooLong]
  have passable : path.IsPassable := ⟨by simpa using hasNull, by omega⟩
  simp only [passable, true_and]
  cases walk tree follow linkLimit (if path.isAbsolute then [] else tree.working) path.wayPoints with
  | error reason => exact ⟨fun same => (by cases same), fun same => (by cases same)⟩
  | ok other =>
      constructor
      · intro same
        cases same
        rfl
      · intro same
        cases same
        rfl

theorem Path.text_child (path : Path) (name : String) :
    path.text = "." ∨ ∃ more, (path.child name).text = path.text ++ more := by
  obtain ⟨anchor, parts⟩ := path
  cases parts with
  | nil =>
      cases anchor with
      | current => exact .inl rfl
      | root => exact .inr ⟨name, by simp [child, text]⟩
      | doubleRoot => exact .inr ⟨name, by simp [child, text]⟩
  | cons first rest =>
      right
      have joined := String.intercalate_append_of_ne_nil (s := "/")
        (List.cons_ne_nil first rest) (List.cons_ne_nil name [])
      refine ⟨"/" ++ String.intercalate "/" [name], ?_⟩
      rw [List.cons_append] at joined
      simp [child, text, joined, String.append_assoc]

theorem Path.IsPassable.of_child (passable : (path.child name).IsPassable) : path.IsPassable := by
  rcases path.text_child name with isPoint | ⟨more, isLonger⟩
  · exact ⟨by rw [isPoint]; decide, by rw [isPoint]; decide⟩
  · obtain ⟨plain, short⟩ := passable
    rw [isLonger, String.toList_append, List.mem_append, not_or] at plain
    rw [isLonger, String.utf8ByteSize_append] at short
    exact ⟨plain.1, by omega⟩

/-- The way of a path with more names is its way and these names. -/
theorem Path.wayPoints_append (path : Path) (names : List String) :
    (⟨path.anchor, path.parts ++ names⟩ : Path).wayPoints = path.wayPoints ++ names := by
  obtain ⟨anchor, parts⟩ := path
  cases anchor with
  | current => rfl
  | root => rfl
  | doubleRoot => rfl

theorem Path.wayPoints_child (path : Path) (name : String) :
    (path.child name).wayPoints = path.wayPoints ++ [name] :=
  path.wayPoints_append [name]

theorem FileTree.startOf_child (tree : FileTree) (path : Path) (name : String) :
    tree.startOf (path.child name) = tree.startOf path :=
  rfl

def LeadsTo (tree : FileTree) (path : Path) (place : Location) : Prop :=
  locate tree true path = .ok (.found place .directory)

/-! ## What stands at a destination -/

/-- The destination is an entry of the file system, or a free name in one of its
directories. -/
def Destination.Stands (tree : FileTree) : Destination → Prop
  | .found location entry => tree.contentAt? location = some entry
  | .vacant location => ∃ parent name, location = parent ++ [name] ∧ IsEntryName name ∧
      tree.contentAt? parent = some .directory ∧ tree.contentAt? location = none

/-- A leg ends at something that stands, or goes on from a directory. -/
def Leg.Stands (tree : FileTree) : Leg → Prop
  | .arrived destination => destination.Stands tree
  | .onward base _ => tree.contentAt? base = some .directory

theorem Reaches.stands (wellFormed : tree.WellFormed) {current : Location} {steps : List String}
    {reached : Leg} (reaches : Reaches tree follow current steps reached)
    (directory : tree.contentAt? current = some .directory) : reached.Stands tree := by
  induction reaches with
  | stay => exact directory
  | slash _ inductionHypothesis => exact inductionHypothesis directory
  | point _ _ inductionHypothesis => exact inductionHypothesis directory
  | up _ _ inductionHypothesis => exact inductionHypothesis (wellFormed.dropLast directory)
  | directory _ _ _ content _ inductionHypothesis => exact inductionHypothesis content
  | vacant isName _ _ content => exact ⟨_, _, rfl, isName, directory, content⟩
  | file _ _ _ content => exact content
  | lastLink _ _ _ content _ => exact content
  | link _ _ _ _ _ =>
      rw [Leg.Stands]
      split
      · rfl
      · exact directory

theorem Way.stands (wellFormed : tree.WellFormed) {links : Nat} {current : Location}
    {steps : List String} (way : Way tree follow destination links current steps)
    (directory : tree.contentAt? current = some .directory) : destination.Stands tree := by
  induction way with
  | arrived last => exact last.stands wellFormed directory
  | onward first _ inductionHypothesis =>
      exact inductionHypothesis (first.stands wellFormed directory)

/-- Where a path leads, there is the entry, or a free name in a directory. -/
theorem stands_of_locate (wellFormed : tree.WellFormed)
    (working : tree.contentAt? tree.working = some .directory)
    (leads : locate tree follow path = .ok destination) : destination.Stands tree := by
  refine (locate_eq_ok_iff.mp leads).2.stands wellFormed ?_
  rw [FileTree.startOf]
  split
  · rfl
  · exact working

/-! ## Larger file systems -/

namespace FileTree

/-- Everything in the file system `small` stands in `big` too, and is permitted there. -/
structure IsPartOf (small big : FileTree) : Prop where
  working : small.working = big.working
  permits : small.Permits big
  kept : ∀ location, small.contentAt? location = big.contentAt? location ∨
    small.contentAt? location = none

namespace IsPartOf

theorem refl (tree : FileTree) : tree.IsPartOf tree :=
  ⟨rfl, .of_eq rfl rfl, fun _ => .inl rfl⟩

theorem trans {middle : FileTree} (first : small.IsPartOf middle) (second : middle.IsPartOf big) :
    small.IsPartOf big := by
  refine ⟨first.working.trans second.working, first.permits.trans second.permits,
    fun location => ?_⟩
  rcases first.kept location with same | gone
  · rw [same]
    exact second.kept location
  · exact .inr gone

theorem filter (tree : FileTree) (keep : Location → Bool) :
    ({ tree with
        entries := tree.entries.filter fun (other, _) => keep other } : FileTree).IsPartOf tree := by
  refine ⟨rfl, .of_eq rfl rfl, fun location => ?_⟩
  rw [contentAt?_filter]
  split
  · exact .inl rfl
  · exact .inr rfl

theorem emptied (tree : FileTree) (place : Location) : (tree.emptied place).IsPartOf tree :=
  filter tree fun other => !isInside place other

theorem remove (tree : FileTree) (place : Location) : (tree.remove place).IsPartOf tree :=
  filter tree fun other => !isWithin place other

theorem placed (free : tree.contentAt? location = none)
    (entry : Entry) : tree.IsPartOf (tree.place location entry) := by
  refine ⟨rfl, .place tree location entry, fun other => ?_⟩
  by_cases same : other = location
  · rw [same]
    exact .inr free
  · exact .inl (contentAt?_place_of_ne tree entry same).symm

/-- A path that leads to an entry still leads to it in a larger file system. -/
theorem locate (isPart : small.IsPartOf big)
    (leads : Files.locate small follow path = .ok (.found location entry)) :
    Files.locate big follow path = .ok (.found location entry) := by
  rw [locate_eq_ok_iff] at leads ⊢
  refine ⟨leads.1, ?_⟩
  have same : big.startOf path = small.startOf path := by
    rw [startOf, startOf, isPart.working]
  rw [same]
  exact leads.2.transfer isPart.permits fun station _ _ => isPart.kept station

theorem leadsTo (isPart : small.IsPartOf big) (leads : LeadsTo small path place) :
    LeadsTo big path place :=
  isPart.locate leads

end IsPartOf

end FileTree

theorem LeadsTo.unique {other : Location} (first : LeadsTo tree path place)
    (second : LeadsTo tree path other) : place = other := by
  unfold LeadsTo at first second
  rw [first] at second
  cases second
  rfl

/-! ## Opening a directory -/

theorem LeadsTo.openDirectory_eq (leads : LeadsTo tree path place) :
    openDirectory tree path =
      if tree.isReadable place then .ok place else refusal .noAccess path := by
  unfold LeadsTo at leads
  rw [openDirectory, leads]
  rfl

theorem openDirectory_eq_ok_iff :
    openDirectory tree path = .ok place ↔ LeadsTo tree path place ∧ tree.isReadable place = true := by
  constructor
  · intro opened
    have leads : LeadsTo tree path place := by
      rw [openDirectory] at opened
      obtain ⟨destination, located, answered⟩ := Traversal.bind_eq_ok_iff.mp opened
      split at answered
      · split at answered
        · cases answered
          exact located
        · cases answered
      · cases answered
      · cases answered
    rw [leads.openDirectory_eq] at opened
    split at opened
    · rename_i readable
      cases opened
      exact ⟨leads, readable⟩
    · cases opened
  · rintro ⟨leads, readable⟩
    rw [leads.openDirectory_eq, if_pos readable]

/-! ## Names in a directory -/

/-- A path to a name in a directory leads where the name leads from that directory on. -/
theorem leadsTo_of_locate_child (leads : locate tree follow (directory.child name) = .ok destination) :
    ∃ place, LeadsTo tree directory place := by
  obtain ⟨passable, way⟩ := locate_eq_ok_iff.mp leads
  rw [Path.wayPoints_child] at way
  obtain ⟨place, front⟩ := way.exists_directory (List.cons_ne_nil name [])
  exact ⟨place, locate_eq_ok_iff.mpr ⟨passable.of_child, front⟩⟩

/-- What a single name leads to in a directory, as long as no link is followed. -/
def Destination.atName (tree : FileTree) (place : Location) (name : String) : Destination :=
  match tree.contentAt? (place ++ [name]) with
  | none => .vacant (place ++ [name])
  | some entry => .found (place ++ [name]) entry

/-- A name in a directory leads to what stands there under it, links apart. -/
theorem locate_child_iff (isName : IsEntryName name)
    (unlinked : follow = true → ∀ target, tree.contentAt? (place ++ [name]) ≠ some (.link target))
    (leads : LeadsTo tree directory place) :
    locate tree follow (directory.child name) = .ok destination ↔
      tree.isSearchable place = true ∧ (directory.child name).IsPassable ∧
        name.utf8ByteSize ≤ nameLimit ∧ destination = .atName tree place name := by
  rw [locate_eq_ok_iff, and_left_comm]
  refine and_congr_right fun _ => ?_
  obtain ⟨left, same⟩ := (locate_eq_ok_iff.mp leads).2.walk_append (List.cons_ne_nil name [])
  rw [← walk_eq_ok_iff, Path.wayPoints_child, FileTree.startOf_child, same, walk]
  cases searchable : tree.isSearchable place with
  | false => simp [leg_of_not_searchable isName.1 searchable]
  | true =>
  by_cases tooLong : nameLimit < name.utf8ByteSize
  · rw [leg_of_tooLong isName searchable tooLong]
    refine ⟨fun impossible => (by cases impossible), fun holds => ?_⟩
    exact absurd holds.2.1 (by omega)
  have short : name.utf8ByteSize ≤ nameLimit := by omega
  rw [leg_name isName searchable short]
  simp only [short, true_and, Destination.atName]
  cases content : tree.contentAt? (place ++ [name]) with
  | none => simp [eq_comm]
  | some entry =>
      cases entry with
      | file bytes => simp [eq_comm]
      | directory => simp [leg, eq_comm]
      | link target =>
          cases follow with
          | true => exact absurd content (unlinked rfl target)
          | false => simp [eq_comm]

end AddonBindings.Files
