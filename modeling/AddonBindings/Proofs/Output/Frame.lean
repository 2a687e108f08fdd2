import AddonBindings.Proofs.Files.Ancestors
import AddonBindings.Proofs.Output.Writing
import AddonBindings.Proofs.Traversal

/-!
Contract: everything that writing an addon does to a file system.

Owns:
- the output directory after the writing, whatever it held before;
- the rest of the file system, where only missing directories on the way to the output
  directory were made;
- the capstone: a writing that succeeds has replaced the content of one directory.

Does not own: whether a writing succeeds, and a second one after it, which are in
`AddonBindings.Proofs.Output.Writing`.
-/

namespace AddonBindings.Output

open AddonBindings.Files
open AddonBindings.Files.FileTree
open AddonBindings.Traversal

variable {tree made changed : FileTree} {directory : Path} {place : Location} {addon : String}
  {bindings : Bindings}

/-- The file system `changed` is `tree` with the two files of an addon in place of everything
else in the directory at `place`, to which the path of the output directory leads. -/
structure Replaces (directory : Path) (addon : String) (bindings : Bindings)
    (tree changed : FileTree) (place : Location) : Prop where
  leads : LeadsTo changed directory place
  /-- The directory has two entries. -/
  names : (changed.namesIn place).Perm [nativeName addon, declarationName addon]
  /-- They are files with the two texts, and nothing is below them. -/
  contents : ∀ first rest, changed.contentAt? (place ++ first :: rest) =
    contentBelow? addon bindings (first :: rest)
  /-- Outside of the directory, only missing directories on the way to it were made. -/
  outside : ∀ location, isInside place location = false →
    changed.contentAt? location = tree.contentAt? location ∨
      tree.contentAt? location = none ∧ changed.contentAt? location = some .directory ∧
        PassesThrough changed directory location
  /-- Where a path has led outside, also through a link inside of the directory, the entry
  still stands. -/
  targets : ∀ path location entry, locate tree true path = .ok (.found location entry) →
    isInside place location = false → changed.contentAt? location = some entry
  /-- If the path has led to a directory before, it is this one, and none was made. -/
  existing : ∀ here, LeadsTo tree directory here →
    here = place ∧ ∀ location, isInside place location = false →
      changed.contentAt? location = tree.contentAt? location

namespace Writing

theorem changed_of_outside (writing : Writing directory addon bindings tree changed place made)
    {location : Location} (outside : isInside place location = false) :
    changed.contentAt? location = made.contentAt? location := by
  rw [writing.isFilled, contentAt?_filled_of_outside outside]

theorem emptied_isPartOf (writing : Writing directory addon bindings tree changed place made) :
    (made.emptied place).IsPartOf changed := by
  rw [writing.isFilled]
  exact isPartOf_emptied_filled.trans (.emptied _ place)

theorem outside_of_grownAlong (writing : Writing directory addon bindings tree changed place made)
    (grownAlong : GrownAlong directory tree made) {location : Location}
    (outside : isInside place location = false) :
    changed.contentAt? location = tree.contentAt? location ∨
      tree.contentAt? location = none ∧ changed.contentAt? location = some .directory ∧
        PassesThrough changed directory location := by
  rw [writing.changed_of_outside outside]
  rcases writing.grown.contents location with same | ⟨free, isMade⟩
  · exact .inl same
  · have passes : PassesThrough (made.emptied place) directory location :=
      (grownAlong.along location free isMade).of_leadsTo (.emptied made place) writing.leads
    exact .inr ⟨free, isMade, passes.of_isPartOf writing.emptied_isPartOf⟩

/-- What stands outside of the output directory still stands. -/
theorem stands_outside (writing : Writing directory addon bindings tree changed place made)
    {location : Location} {entry : Entry} (outside : isInside place location = false)
    (content : tree.contentAt? location = some entry) :
    changed.contentAt? location = some entry := by
  rcases writing.kept_outside outside with same | missing
  · rw [← same, content]
  · rw [missing] at content
    cases content

end Writing

/-- **The effect of writing an addon.**  If the writing succeeds, its answer is the paths of
the two files, and the content of the output directory was replaced by them, whatever it was.
Nothing else has changed but that missing directories on the way were made. -/
theorem write_replaces {written : List Path} (wellFormed : tree.WellFormed)
    (working : tree.contentAt? tree.working = some .directory)
    (accepted : isAddonName addon.toList = true)
    (succeeded : (write directory addon bindings).run.run tree = (.ok written, changed)) :
    written = [directory.child (addon ++ ".cc"), directory.child (addon ++ ".ts")] ∧
      ∃ place, Replaces directory addon bindings tree changed place := by
  obtain ⟨place, made, writing, ensured⟩ := writing_of_ok wellFormed working accepted succeeded
  have answer : written = addonPaths directory addon := answer_of_write succeeded
  have grownAlong : GrownAlong directory tree made := by
    have along : GrownAlong directory tree ((ensureDirectories directory).run.run tree).2 :=
      grownAlong_ensureDirectories wellFormed working
    rwa [ensured] at along
  refine ⟨?_, place, writing.leadsTo_changed, ?_, ?_, ?_, ?_, ?_⟩
  · rw [answer, addonPaths, nativePath_eq accepted, declarationPath_eq accepted]
    rfl
  · rw [writing.isFilled, namesIn_filled]
    exact .swap _ _ []
  · intro first rest
    rw [writing.isFilled, contentAt?_filled_below]
  · intro location outside
    exact writing.outside_of_grownAlong grownAlong outside
  · intro path location entry located outside
    exact writing.stands_outside outside (stands_of_locate wellFormed working located)
  · intro here leads
    have nothing : made = tree := by
      rw [leads.ensureDirectories_eq] at ensured
      exact (Prod.ext_iff.mp ensured).2.symm
    have leadsMade : LeadsTo made directory place :=
      (IsPartOf.emptied made place).leadsTo writing.leads
    rw [nothing] at leadsMade
    refine ⟨leads.unique leadsMade, fun location outside => ?_⟩
    rw [writing.changed_of_outside outside, nothing]

/-- An output directory that is reached through a link.  In it, a link has the name of one of
the two files and leads out, a directory has the name of the other, and a link leads nowhere. -/
def clutteredTree : FileTree where
  entries :=
    [(["project"], .directory), (["project", "keep.txt"], .file [1]),
      (["project", "out"], .link "../store"), (["store"], .directory),
      (["store", "gonode"], .directory),
      (["store", "gonode", "calc.cc"], .link "/project/keep.txt"),
      (["store", "gonode", "calc.ts"], .directory),
      (["store", "gonode", "calc.ts", "x"], .file [2]),
      (["store", "gonode", "lost"], .link "nowhere")]
  working := ["project"]

theorem clutteredTree_replaced :
    ∃ changed, clutteredTree.WellFormed ∧
      clutteredTree.contentAt? clutteredTree.working = some .directory ∧
      isAddonName "calc".toList = true ∧
      (write ⟨.current, ["out", "gonode"]⟩ "calc" ⟨"native", "types"⟩).run.run clutteredTree =
        (.ok [⟨.current, ["out", "gonode", "calc.cc"]⟩, ⟨.current, ["out", "gonode", "calc.ts"]⟩],
          changed) ∧
      Replaces ⟨.current, ["out", "gonode"]⟩ "calc" ⟨"native", "types"⟩ clutteredTree changed
        ["store", "gonode"] ∧
      changed.contentAt? ["project", "keep.txt"] = some (.file [1]) := by
  have wellFormed : clutteredTree.WellFormed := by decide +kernel
  have answer : ((write ⟨.current, ["out", "gonode"]⟩ "calc" ⟨"native", "types"⟩).run.run
      clutteredTree).1 =
        .ok [⟨.current, ["out", "gonode", "calc.cc"]⟩, ⟨.current, ["out", "gonode", "calc.ts"]⟩] :=
    eq_ok_of_toOption (by decide +kernel)
  have leads : LeadsTo clutteredTree ⟨.current, ["out", "gonode"]⟩ ["store", "gonode"] :=
    eq_ok_of_toOption (by decide +kernel)
  obtain ⟨changed, succeeded⟩ : ∃ changed,
      (write ⟨.current, ["out", "gonode"]⟩ "calc" ⟨"native", "types"⟩).run.run clutteredTree =
        (.ok [⟨.current, ["out", "gonode", "calc.cc"]⟩, ⟨.current, ["out", "gonode", "calc.ts"]⟩],
          changed) := ⟨_, Prod.ext answer rfl⟩
  obtain ⟨-, place, replaces⟩ := write_replaces wellFormed rfl (by decide) succeeded
  obtain ⟨rfl, -⟩ := replaces.existing _ leads
  have outwards : locate clutteredTree true ⟨.current, ["out", "gonode", "calc.cc"]⟩ =
      .ok (.found ["project", "keep.txt"] (.file [1])) := eq_ok_of_toOption (by decide +kernel)
  exact ⟨changed, wellFormed, rfl, by decide, succeeded, replaces,
    replaces.targets _ _ _ outwards (by decide)⟩

end AddonBindings.Output
