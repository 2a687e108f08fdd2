import AddonBindings.Proofs.Project.PlainDiscovery
import AddonBindings.Proofs.Run.Sources

/-!
Contract: the output directory over runs one after the other.

Owns:
- histories of runs that share one output directory, with edits between them;
- that the output directory holds exactly the addon of the latest run that has generated
  one;
- that repeating such a run changes nothing.

Does not own: what a single run does, which is in `AddonBindings.Proofs.Run.Sources`.
-/

namespace AddonBindings

open AddonBindings.Files
open AddonBindings.Files.FileTree (isInside isInside_iff isWithin isWithin_iff IsPartOf)
open AddonBindings.Traversal

/-! ## Histories -/

/-- A run that has generated an addon: the files it has found, what it was asked for and
its result. -/
structure Generation where
  tree : FileTree
  project : Path
  settings : Settings
  result : RunResult

/-- The latest run that has generated an addon, after one more run. -/
def Generation.latestAfter (latest : Option Generation) (tree : FileTree) (project : Path)
    (settings : Settings) : Option Generation :=
  match (run project settings tree).1.outcome with
  | .ok result => if result.generated then some ⟨tree, project, settings, result⟩ else latest
  | .error _ => latest

/-- The run does not fail in writing: it comes to a result once everything is prepared. -/
def CompletesWriting (tree : FileTree) (project : Path) (settings : Settings) : Prop :=
  ∀ preparation, (prepare tree project settings).outcome = .ok preparation →
    ∃ result, (run project settings tree).1.outcome = .ok result

/-- If the run generates an addon, its output directory is the one at `place`. -/
def WritesTo (place : Location) (tree : FileTree) (project : Path) (settings : Settings) : Prop :=
  ∀ result, (run project settings tree).1.outcome = .ok result → result.generated = true →
    LeadsTo (run project settings tree).2 (Output.directory project settings.output) place

/-- Runs that share the output directory at `place`, with edits between them that change
nothing in it: the latest run that has generated an addon, and the files as they are. -/
inductive History (place : Location) (start : FileTree) : Option Generation → FileTree → Prop where
  | begun : History place start none start
  | edited {latest : Option Generation} {before after : FileTree}
      (earlier : History place start latest before) (wellFormed : after.WellFormed)
      (kept : ∀ location, isWithin place location = true →
        after.contentAt? location = before.contentAt? location) :
      History place start latest after
  | called {latest : Option Generation} {before : FileTree}
      (earlier : History place start latest before) (project : Path) (settings : Settings)
      (working : before.contentAt? before.working = some .directory)
      (completes : CompletesWriting before project settings)
      (shared : WritesTo place before project settings) :
      History place start (Generation.latestAfter latest before project settings)
        (run project settings before).2

/-- The directory at `place` holds the addon of the run and nothing else: the texts are
those of the functions that were extracted from the sources as the run has found them. -/
structure Generation.IsHeld (generation : Generation) (place : Location) (tree : FileTree) :
    Prop where
  succeeded : (run generation.project generation.settings generation.tree).1.outcome =
    .ok generation.result
  generated : generation.result.generated = true
  discovered : Project.sources generation.tree generation.project generation.settings.patterns =
    .ok generation.result.sources
  contents : ∃ found name bindings,
    generation.result.sources.mapM (Export.ofFile generation.tree) = .ok found ∧
      generation.settings.name = .text name ∧
      Bindings.generate found.flatten generation.settings.name = .ok bindings ∧
      tree.contentAt? place = some .directory ∧
      ∀ first rest, tree.contentAt? (place ++ first :: rest) =
        Output.contentBelow? name bindings (first :: rest)

variable {place : Location} {start tree before after : FileTree} {latest : Option Generation}
  {generation : Generation} {project : Path} {settings : Settings} {result : RunResult}

/-! ## One run -/

private theorem bindings_of_generate {functions : List ExportedFunction} {name : Datum}
    {addon : Addon}
    (generated : Addon.generate functions name = .ok addon) :
    name = .text addon.name ∧ Bindings.generate functions name = .ok addon.bindings := by
  refine ⟨(sources_of_addon generated).1, ?_⟩
  obtain ⟨bindings, made, named⟩ := bind_eq_ok_iff.mp generated
  obtain ⟨text, -, same⟩ := bind_eq_ok_iff.mp named
  cases same
  cases bound : Bindings.generate functions name with
  | error fault =>
      rw [bound] at made
      cases made
  | ok value =>
      rw [bound] at made
      cases made
      rfl

/-- Outside of a generated addon, a run that does not fail in writing changes nothing. -/
theorem unchanged_of_completesWriting (completes : CompletesWriting tree project settings)
    (nothing : ∀ result, (run project settings tree).1.outcome = .ok result →
      result.generated = false) : (run project settings tree).2 = tree := by
  cases prepared : (prepare tree project settings).outcome with
  | error fault => exact unchanged_of_unprepared prepared
  | ok preparation =>
      obtain ⟨result, succeeded⟩ := completes preparation prepared
      exact unchanged_of_not_generated succeeded (nothing result succeeded)

private theorem latestAfter_of_generated
    (succeeded : (run project settings tree).1.outcome = .ok result)
    (generated : result.generated = true) :
    Generation.latestAfter latest tree project settings = some ⟨tree, project, settings, result⟩ := by
  rw [Generation.latestAfter, succeeded]
  exact if_pos generated

private theorem latestAfter_of_not_generated
    (nothing : ∀ result, (run project settings tree).1.outcome = .ok result →
      result.generated = false) :
    Generation.latestAfter latest tree project settings = latest := by
  rw [Generation.latestAfter]
  split
  · rename_i result succeeded
    rw [nothing result succeeded]
    exact if_neg Bool.false_ne_true
  · rfl

/-- After a run that has generated an addon, the output directory holds it. -/
theorem isHeld_of_generated (wellFormed : tree.WellFormed)
    (working : tree.contentAt? tree.working = some .directory)
    (succeeded : (run project settings tree).1.outcome = .ok result)
    (generated : result.generated = true) (shared : WritesTo place tree project settings) :
    (run project settings tree).2.WellFormed ∧
      Generation.IsHeld ⟨tree, project, settings, result⟩ place (run project settings tree).2 := by
  obtain ⟨addon, here, made, generation, writing⟩ :=
    exists_writing_of_generated wellFormed working succeeded generated
  have same : here = place := writing.leadsTo_changed.unique (shared result succeeded generated)
  subst same
  obtain ⟨discovered, ⟨found, extracted, functions⟩, -⟩ := prepared_of_generated succeeded generated
  obtain ⟨named, bindings⟩ := bindings_of_generate generation
  rw [functions] at bindings
  refine ⟨writing.wellFormed (isAddonName_of_generate generation), succeeded, generated, discovered,
    found, addon.name, addon.bindings, extracted, named, bindings, ?_, ?_⟩
  · rw [writing.isFilled, Output.contentAt?_filled_of_outside (FileTree.isInside_self here)]
    exact writing.isDirectory
  · intro first rest
    rw [writing.isFilled, Output.contentAt?_filled_below]

/-- A run that has generated an addon changes nothing when it is repeated: the files that
it reads are outside of the output directory, and it writes what is there. -/
theorem run_again (wellFormed : tree.WellFormed)
    (working : tree.contentAt? tree.working = some .directory)
    (succeeded : (run project settings tree).1.outcome = .ok result)
    (generated : result.generated = true) (shared : WritesTo place tree project settings)
    (rediscovered : Project.sources (run project settings tree).2 project settings.patterns =
      .ok result.sources)
    (outside : ∀ path ∈ result.sources, ∀ location entry,
      locate (run project settings tree).2 true path = .ok (.found location entry) →
        isInside place location = false) :
    run project settings (run project settings tree).2 = run project settings tree := by
  have leads := shared result succeeded generated
  have ended := runEnd tree project settings
  generalize run project settings tree = reached at ended succeeded leads rediscovered outside ⊢
  cases ended with
  | unprepared => cases succeeded
  | unwritten => cases succeeded
  | empty =>
      cases succeeded
      cases generated
  | @written messages preparation addon paths changed isPrepared there wrote standing =>
      cases succeeded
      have prepared := prepared_of_ok (congrArg Attempt.outcome isPrepared)
      have accepted := isAddonName_of_generate (prepared.generated addon there)
      obtain ⟨here, made, writing, -⟩ := Output.writing_of_ok wellFormed working accepted wrote
      have same : here = place := writing.leadsTo_changed.unique leads
      subst same
      have sameSource (path : Path) (source : path ∈ preparation.sources) :
          Export.ofFile tree path = Export.ofFile changed path := by
        obtain ⟨bytes, isRead⟩ := exists_readFile_of_prepared prepared source
        obtain ⟨location, _, located⟩ := Project.exists_file_of_mem_sources rediscovered source
        have onlyOutside := writing.outside_of_locate located (outside path source _ _ located)
        have isReadAgain :=
          writing.readFile_of_ok (fun station _ onWay => onlyOutside station onWay) isRead
        exact Export.ofFile_congr (isRead.trans isReadAgain.symm)
      have preparedAgain : prepare changed project settings = ⟨messages, .ok preparation⟩ :=
        (prepare_congr prepared.discovered rediscovered sameSource).symm.trans isPrepared
      rw [run_of_write_ok preparedAgain there (writing.again accepted), standing]

/-! ## The invariant -/

theorem Generation.IsHeld.of_kept (held : generation.IsHeld place before)
    (kept : ∀ location, isWithin place location = true →
      after.contentAt? location = before.contentAt? location) : generation.IsHeld place after := by
  obtain ⟨found, name, bindings, extracted, named, made, isDirectory, contents⟩ := held.contents
  refine ⟨held.succeeded, held.generated, held.discovered, found, name, bindings, extracted, named,
    made, ?_, fun first rest => ?_⟩
  · rw [kept place (isWithin_iff.mpr ⟨[], by simp⟩)]
    exact isDirectory
  · rw [kept _ (isWithin_iff.mpr ⟨_, rfl⟩)]
    exact contents first rest

/-- What a history keeps: the output directory is as it was at the start, or holds the
addon of the latest generation. -/
structure OutputInvariant (place : Location) (start : FileTree) (latest : Option Generation)
    (tree : FileTree) : Prop where
  wellFormed : tree.WellFormed
  untouched : latest = none → ∀ location, isWithin place location = true →
    tree.contentAt? location = start.contentAt? location
  held : ∀ generation, latest = some generation → generation.IsHeld place tree

namespace OutputInvariant

theorem edited (invariant : OutputInvariant place start latest before)
    (wellFormed : after.WellFormed)
    (kept : ∀ location, isWithin place location = true →
      after.contentAt? location = before.contentAt? location) :
    OutputInvariant place start latest after where
  wellFormed := wellFormed
  untouched := fun nothing location within_ =>
    (kept location within_).trans (invariant.untouched nothing location within_)
  held := fun generation isLatest => (invariant.held generation isLatest).of_kept kept

/-- One call keeps the invariant. -/
theorem called (invariant : OutputInvariant place start latest before)
    (working : before.contentAt? before.working = some .directory)
    (completes : CompletesWriting before project settings)
    (shared : WritesTo place before project settings) :
    OutputInvariant place start (Generation.latestAfter latest before project settings)
      (run project settings before).2 := by
  by_cases generates : ∃ result,
      (run project settings before).1.outcome = .ok result ∧ result.generated = true
  · obtain ⟨result, succeeded, generated⟩ := generates
    obtain ⟨wellFormed, held⟩ :=
      isHeld_of_generated invariant.wellFormed working succeeded generated shared
    rw [latestAfter_of_generated succeeded generated]
    refine ⟨wellFormed, fun nothing => (by cases nothing), fun generation isLatest => ?_⟩
    cases isLatest
    exact held
  · have nothing (result : RunResult)
        (succeeded : (run project settings before).1.outcome = .ok result) :
        result.generated = false := by
      rw [Bool.eq_false_iff]
      exact fun generated => generates ⟨result, succeeded, generated⟩
    rw [latestAfter_of_not_generated nothing, unchanged_of_completesWriting completes nothing]
    exact invariant

end OutputInvariant

theorem History.invariant (wellFormed : start.WellFormed)
    (history : History place start latest tree) : OutputInvariant place start latest tree := by
  induction history with
  | begun => exact ⟨wellFormed, fun _ _ _ => rfl, fun _ impossible => (by cases impossible)⟩
  | edited _ stillWellFormed kept inductionHypothesis =>
      exact inductionHypothesis.edited stillWellFormed kept
  | called _ project settings working completes shared inductionHypothesis =>
      exact inductionHypothesis.called working completes shared

/-- **The output directory holds the latest addon.**

After any history of runs that share an output directory, with arbitrary edits outside
of it between them:

1. If no run has generated an addon, everything in the directory is as it was.
2. Otherwise the directory holds exactly the two files of the latest such run, with the
   texts that are generated from the functions of the sources as they were at that run.
3. If one more run generates an addon and is then repeated, finding the same sources and
   none of them inside the directory, it has the same messages and the same result, and
   leaves the whole file system as it is. -/
theorem output_of_history (wellFormed : start.WellFormed)
    (history : History place start latest tree) :
    (latest = none → ∀ location, isWithin place location = true →
        tree.contentAt? location = start.contentAt? location) ∧
      (∀ generation, latest = some generation → generation.IsHeld place tree) ∧
      ∀ project settings result,
        tree.contentAt? tree.working = some .directory →
        (run project settings tree).1.outcome = .ok result → result.generated = true →
        WritesTo place tree project settings →
        Project.sources (run project settings tree).2 project settings.patterns =
          .ok result.sources →
        (∀ path ∈ result.sources, ∀ location entry,
          locate (run project settings tree).2 true path = .ok (.found location entry) →
            isInside place location = false) →
        run project settings (run project settings tree).2 = run project settings tree := by
  have invariant := history.invariant wellFormed
  refine ⟨invariant.untouched, invariant.held, ?_⟩
  intro project settings result working succeeded generated shared rediscovered outside
  exact run_again invariant.wellFormed working succeeded generated shared rediscovered outside

theorem separateProject_repeated :
    ∃ generation changed, separateProject.WellFormed ∧
      (run ⟨.current, []⟩ separateSettings separateProject).2 = changed ∧
      History ["project", "build", "gonode"] separateProject (some generation) changed ∧
      generation.IsHeld ["project", "build", "gonode"] changed ∧
      run ⟨.current, []⟩ separateSettings (run ⟨.current, []⟩ separateSettings changed).2 =
        run ⟨.current, []⟩ separateSettings changed := by
  have wellFormed : separateProject.WellFormed := by decide +kernel
  have first : (run ⟨.current, []⟩ separateSettings separateProject).1.outcome.toOption.map
      RunResult.generated = some true := by decide +kernel
  have leads : LeadsTo (run ⟨.current, []⟩ separateSettings separateProject).2
      (Output.directory ⟨.current, []⟩ separateSettings.output) ["project", "build", "gonode"] :=
    eq_ok_of_toOption (by decide +kernel)
  obtain ⟨result, ended, generated⟩ := Option.map_eq_some_iff.mp first
  have succeeded := eq_ok_of_toOption ended
  have history : History ["project", "build", "gonode"] separateProject
      (Generation.latestAfter none separateProject ⟨.current, []⟩ separateSettings)
      (run ⟨.current, []⟩ separateSettings separateProject).2 :=
    .called .begun ⟨.current, []⟩ separateSettings rfl
      (fun _ _ => ⟨result, succeeded⟩) (fun _ _ _ => leads)
  rw [latestAfter_of_generated succeeded generated] at history
  obtain ⟨changed, ran⟩ :
    ∃ changed, (run ⟨.current, []⟩ separateSettings separateProject).2 = changed := ⟨_, rfl⟩
  rw [ran] at history
  have working : changed.contentAt? changed.working = some .directory := by
    rw [← ran]
    decide +kernel
  have second : (run ⟨.current, []⟩ separateSettings changed).1.outcome.toOption.map
      (fun result => (result.sources, result.generated)) =
        some ([⟨.current, ["go", "a.go"]⟩], true) := by
    rw [← ran]
    decide +kernel
  have leadsAgain : LeadsTo (run ⟨.current, []⟩ separateSettings changed).2
      (Output.directory ⟨.current, []⟩ separateSettings.output) ["project", "build", "gonode"] := by
    rw [← ran]
    exact eq_ok_of_toOption (by decide +kernel)
  have rediscovered : Project.sources (run ⟨.current, []⟩ separateSettings changed).2
      ⟨.current, []⟩ separateSettings.patterns = .ok [⟨.current, ["go", "a.go"]⟩] := by
    rw [← ran]
    exact eq_ok_of_toOption (by decide +kernel)
  have standing : locate (run ⟨.current, []⟩ separateSettings changed).2 true
      ⟨.current, ["go", "a.go"]⟩ = .ok (.found ["project", "go", "a.go"] (.file singleSource)) := by
    rw [← ran]
    exact eq_ok_of_toOption (by decide +kernel)
  obtain ⟨again, endedAgain, found⟩ := Option.map_eq_some_iff.mp second
  obtain ⟨sources, generatedAgain⟩ := Prod.ext_iff.mp found
  have isSource : again.sources = [⟨.current, ["go", "a.go"]⟩] := sources
  have kept := output_of_history wellFormed history
  refine ⟨_, changed, wellFormed, ran, history, kept.2.1 _ rfl, ?_⟩
  refine kept.2.2 ⟨.current, []⟩ separateSettings again working (eq_ok_of_toOption endedAgain)
    generatedAgain (fun _ _ _ => leadsAgain) ?_ ?_
  · rw [isSource]
    exact rediscovered
  · rw [isSource]
    intro path member location entry located
    rw [List.mem_singleton.mp member, standing] at located
    cases located
    decide +kernel

end AddonBindings
