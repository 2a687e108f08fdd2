import AddonBindings.Proofs.Files.Effect

/-!
Contract: the directories that are made on the way of a path.

Owns:
- the locations where a path leads after some of its names;
- that a directory made under a free name is where its path then leads;
- that making the directories of a path makes them at such locations only.

Does not own: what is written into the directories, which is in
`AddonBindings.Proofs.Output.Frame`.
-/

namespace AddonBindings.Files

variable {tree before changed small big : FileTree} {path : Path} {location place current : Location}
  {steps names : List String} {links : Nat}

/-! ## Where a path leads on its way -/

/-- After some of its names, perhaps all, the path leads to the directory at the location. -/
def PassesThrough (tree : FileTree) (path : Path) (location : Location) : Prop :=
  ∃ names, names <+: path.parts ∧ LeadsTo tree ⟨path.anchor, names⟩ location

theorem PassesThrough.of_isPartOf (isPart : small.IsPartOf big)
    (passes : PassesThrough small path location) : PassesThrough big path location := by
  obtain ⟨names, front, leads⟩ := passes
  exact ⟨names, front, isPart.leadsTo leads⟩

theorem Path.IsPassable.of_prefix (passable : path.IsPassable) (front : names <+: path.parts) :
    (⟨path.anchor, names⟩ : Path).IsPassable := by
  obtain ⟨rest, whole⟩ := front
  obtain ⟨anchor, parts⟩ := path
  subst whole
  induction rest using List.reverseRecOn with
  | nil => rwa [List.append_nil] at passable
  | append_singleton rest last inductionHypothesis =>
      rw [← List.append_assoc] at passable
      exact inductionHypothesis (Path.IsPassable.of_child passable)

/-- A path that leads to a directory leads to one after any of its names. -/
theorem LeadsTo.exists_of_prefix (leads : LeadsTo tree path place) (front : names <+: path.parts) :
    ∃ here, LeadsTo tree ⟨path.anchor, names⟩ here := by
  obtain ⟨passable, way⟩ := locate_eq_ok_iff.mp leads
  obtain ⟨rest, whole⟩ := front
  cases rest with
  | nil =>
      rw [List.append_nil] at whole
      exact ⟨place, by rwa [whole]⟩
  | cons name others =>
      have isLonger : path.wayPoints = Path.wayPoints ⟨path.anchor, names⟩ ++ name :: others := by
        rw [← Path.wayPoints_append ⟨path.anchor, names⟩, whole]
      rw [isLonger] at way
      obtain ⟨here, shorter⟩ := way.exists_directory (List.cons_ne_nil name others)
      exact ⟨here, locate_eq_ok_iff.mpr ⟨passable.of_prefix ⟨_, whole⟩, shorter⟩⟩

/-- Where a path passes through in a file system, it passes through in each part of it in
which it still leads to a directory. -/
theorem PassesThrough.of_leadsTo (isPart : small.IsPartOf big)
    (leads : LeadsTo small path place) (passes : PassesThrough big path location) :
    PassesThrough small path location := by
  obtain ⟨names, front, leadsHere⟩ := passes
  obtain ⟨here, leadsThere⟩ := leads.exists_of_prefix front
  have same : here = location := (isPart.leadsTo leadsThere).unique leadsHere
  exact ⟨names, front, by rwa [same] at leadsThere⟩

/-! ## A directory that has just been made -/

/-- The leg, once a directory stands at its end. -/
def Leg.entered : Leg → Leg
  | .arrived (.vacant location) => .arrived (.found location .directory)
  | reached => reached

/-- A way up to a free name goes on into the directory that is made there. -/
theorem Reaches.placed {reached : Leg} (reaches : Reaches tree false current steps reached)
    (free : tree.contentAt? location = none)
    (ends : reached = .arrived (.vacant location) ∨ ∃ base further, reached = .onward base further) :
    Reaches (tree.place location .directory) true current steps reached.entered := by
  have kept {other : Location} {entry : Entry} (content : tree.contentAt? other = some entry) :
      (tree.place location .directory).contentAt? other = some entry := by
    rw [FileTree.contentAt?_place_of_ne tree .directory, content]
    rintro rfl
    rw [free] at content
    cases content
  have permits := FileTree.Permits.place tree location .directory
  induction reaches with
  | stay => simp at ends
  | slash _ inductionHypothesis => exact .slash (inductionHypothesis ends)
  | point searchable _ inductionHypothesis =>
      exact .point (permits.searchable _ searchable) (inductionHypothesis ends)
  | up searchable _ inductionHypothesis =>
      exact .up (permits.searchable _ searchable) (inductionHypothesis ends)
  | directory isName searchable short content _ inductionHypothesis =>
      exact .directory isName (permits.searchable _ searchable) short (kept content)
        (inductionHypothesis ends)
  | @vacant current step isName searchable short content =>
      have isPlace : current ++ [step] = location := by simpa using ends
      have made : (tree.place location .directory).contentAt? (current ++ [step]) =
          some .directory := by
        rw [isPlace, FileTree.contentAt?_place_self tree .directory (by simp [← isPlace])]
      exact .directory isName (permits.searchable _ searchable) short made .stay
  | file => simp at ends
  | lastLink => simp at ends
  | link isName searchable short content _ =>
      exact .link isName (permits.searchable _ searchable) short (kept content) (by simp)

theorem Way.placed (way : Way tree false (.vacant location) links current steps)
    (free : tree.contentAt? location = none) :
    Way (tree.place location .directory) true (.found location .directory) links current steps := by
  induction way with
  | arrived last => exact .arrived (last.placed free (.inl rfl))
  | onward first _ inductionHypothesis =>
      exact .onward (first.placed free (.inr ⟨_, _, rfl⟩)) inductionHypothesis

/-- A path to a free name leads to the directory that is made there. -/
theorem leadsTo_placed (located : locate tree false path = .ok (.vacant location))
    (free : tree.contentAt? location = none) :
    LeadsTo (tree.place location .directory) path location := by
  obtain ⟨passable, way⟩ := locate_eq_ok_iff.mp located
  exact locate_eq_ok_iff.mpr ⟨passable, way.placed free⟩

/-! ## Making the directories of a path -/

/-- The file system has grown from `before` by directories on the way of the path. -/
structure GrownAlong (path : Path) (before after : FileTree) : Prop where
  grown : Grown before after
  along : ∀ location, before.contentAt? location = none →
    after.contentAt? location = some .directory → PassesThrough after path location

theorem GrownAlong.placed (working : before.contentAt? before.working = some .directory)
    (grownAlong : GrownAlong path before tree) (front : names <+: path.parts)
    (located : locate tree false ⟨path.anchor, names⟩ = .ok (.vacant location)) :
    GrownAlong path before (tree.place location .directory) := by
  obtain ⟨grown, along⟩ := grownAlong
  have stillWorking : tree.contentAt? tree.working = some .directory := by
    rw [grown.working]
    exact grown.keeps_directory working
  obtain ⟨parent, name, isPlace, isName, directory, free⟩ :=
    stands_of_locate grown.wellFormed stillWorking located
  refine ⟨grown.placed working located, fun other missing there => ?_⟩
  by_cases same : other = location
  · rw [same]
    exact ⟨names, front, leadsTo_placed located free⟩
  · rw [FileTree.contentAt?_place_of_ne tree .directory same] at there
    exact (along other missing there).of_isPartOf (.placed free .directory)

/-- Making the directories of a path makes them on its way. -/
theorem grownAlong_ensureDirectories (wellFormed : before.WellFormed)
    (working : before.contentAt? before.working = some .directory) :
    GrownAlong path before ((ensureDirectories path).run.run before).2 := by
  have nothing : GrownAlong path before before := by
    refine ⟨.refl wellFormed, fun location missing there => ?_⟩
    rw [missing] at there
    cases there
  refine Change.Keeps.ensureDirectories (fun names front tree grownAlong => ?_) before nothing
  rcases makeDirectory_cases ⟨path.anchor, names⟩ tree with same | ⟨location, located, made⟩
  · rwa [same]
  · rw [made]
    exact grownAlong.placed working front located

end AddonBindings.Files
