import AddonBindings.Proofs.Output.Writing
import AddonBindings.Proofs.Run.AllOrNothing

/-!
Contract: what a run does to the files that it has read.

Owns:
- the writing of a run that has generated an addon;
- that a source still reads as it did before the run, unless the way to it leads through
  the inside of the output directory;
- a run that removes its own source.

Does not own: runs one after the other, which are in `AddonBindings.Proofs.Run.History`.
-/

namespace AddonBindings

open AddonBindings.Files
open AddonBindings.Files.FileTree (isInside)
open AddonBindings.Traversal

variable {tree : FileTree} {project path : Path} {settings : Settings} {result : RunResult}

/-! ## Extraction reads one file -/

theorem Export.ofFile_congr {other : FileTree}
    (same : readFile tree path = readFile other path) :
    Export.ofFile tree path = Export.ofFile other path := by
  rw [Export.ofFile, Export.ofFile, same]

private theorem exists_readFile_of_ofFile {functions : List ExportedFunction}
    (extracted : Export.ofFile tree path = .ok functions) : ∃ bytes, readFile tree path = .ok bytes := by
  rw [Export.ofFile] at extracted
  split at extracted
  · exact ⟨_, by assumption⟩
  · cases extracted
  · cases extracted

private theorem extractFiles_congr {other : FileTree} {paths : List Path}
    (same : ∀ path ∈ paths, Export.ofFile tree path = Export.ofFile other path) :
    extractFiles tree paths = extractFiles other paths := by
  induction paths with
  | nil => rfl
  | cons path rest inductionHypothesis =>
      have restSame := inductionHypothesis fun later member => same later (List.mem_cons_of_mem _ member)
      rw [extractFiles, extractFiles, extractFile, extractFile, same path List.mem_cons_self,
        restSame]

/-- A preparation depends on the sources that are found and on what they hold, and on
nothing else in the file system. -/
theorem prepare_congr {other : FileTree} {sources : List Path}
    (discovered : Project.sources tree project settings.patterns = .ok sources)
    (rediscovered : Project.sources other project settings.patterns = .ok sources)
    (same : ∀ path ∈ sources, Export.ofFile tree path = Export.ofFile other path) :
    prepare tree project settings = prepare other project settings := by
  simp only [prepare, discovered, rediscovered, Attempt.bind_eq_andThen,
    Attempt.silent_ok_andThen, extractFiles_congr same]

theorem exists_readFile_of_prepared {preparation : Preparation}
    (prepared : Prepared tree project settings preparation) (source : path ∈ preparation.sources) :
    ∃ bytes, readFile tree path = .ok bytes := by
  obtain ⟨found, extracted, -⟩ := prepared.extracted
  obtain ⟨functions, -, ofPath⟩ := ok_of_mem_of_mapM extracted source
  exact exists_readFile_of_ofFile ofPath

/-- The sources of a run that has not failed are files that can be read. -/
theorem exists_readFile_of_source
    (succeeded : (run project settings tree).1.outcome = .ok result) (source : path ∈ result.sources) :
    ∃ bytes, readFile tree path = .ok bytes := by
  have ended := runEnd tree project settings
  generalize run project settings tree = reached at ended succeeded
  cases ended with
  | unprepared => cases succeeded
  | unwritten => cases succeeded
  | empty prepared =>
      cases succeeded
      exact exists_readFile_of_prepared (prepared_of_ok (congrArg Attempt.outcome prepared)) source
  | written prepared =>
      cases succeeded
      exact exists_readFile_of_prepared (prepared_of_ok (congrArg Attempt.outcome prepared)) source

/-! ## The writing of a run -/

theorem isAddonName_of_generate {functions : List ExportedFunction} {name : Datum} {addon : Addon}
    (generated : Addon.generate functions name = .ok addon) :
    isAddonName addon.name.toList = true := by
  have named := (sources_of_addon generated).1
  rw [named, Addon.generate, Bindings.generate] at generated
  by_contra refused
  rw [checkAddonName, if_neg refused] at generated
  cases generated

/-- A run that has generated an addon has written it into the output directory. -/
theorem exists_writing_of_generated (wellFormed : tree.WellFormed)
    (working : tree.contentAt? tree.working = some .directory)
    (succeeded : (run project settings tree).1.outcome = .ok result)
    (generated : result.generated = true) :
    ∃ addon place made, Addon.generate result.functions settings.name = .ok addon ∧
      Output.Writing (Output.directory project settings.output) addon.name addon.bindings tree
        (run project settings tree).2 place made := by
  have ended := runEnd tree project settings
  generalize run project settings tree = reached at ended succeeded
  cases ended with
  | unprepared => cases succeeded
  | unwritten => cases succeeded
  | empty =>
      cases succeeded
      cases generated
  | written prepared there wrote =>
      cases succeeded
      have generation := (prepared_of_ok (congrArg Attempt.outcome prepared)).generated _ there
      obtain ⟨place, between, writing, -⟩ :=
        Output.writing_of_ok wellFormed working (isAddonName_of_generate generation) wrote
      exact ⟨_, place, between, generation, writing⟩

/-! ## Sources after a run -/

/-- **A run keeps every source outside of the output directory.**

A source of a run that has not failed reads as it did before the run, if the run has
generated nothing or the way to the source does not lead through the inside of the
output directory. -/
theorem source_kept_outside_output (wellFormed : tree.WellFormed)
    (working : tree.contentAt? tree.working = some .directory)
    (succeeded : (run project settings tree).1.outcome = .ok result) :
    ∀ path ∈ result.sources,
      (result.generated = true → ∀ place,
        LeadsTo (run project settings tree).2 (Output.directory project settings.output) place →
          ∀ station ∈ stations tree true path, isInside place station = false) →
      ∃ bytes, readFile tree path = .ok bytes ∧
        readFile (run project settings tree).2 path = .ok bytes := by
  intro path source outside
  obtain ⟨bytes, isRead⟩ := exists_readFile_of_source succeeded source
  refine ⟨bytes, isRead, ?_⟩
  cases generated : result.generated with
  | false => rwa [unchanged_of_not_generated succeeded generated]
  | true =>
      obtain ⟨addon, place, made, -, writing⟩ :=
        exists_writing_of_generated wellFormed working succeeded generated
      have outsidePlace := outside generated place writing.leadsTo_changed
      exact writing.readFile_of_ok (fun station onWay _ => outsidePlace station onWay) isRead

def singleSource : List UInt8 :=
  Text.encodeUtf8 "package main\n\n//export A\nfunc A() {}\n"

/-- A project with a source outside of its output directory. -/
def separateProject : FileTree where
  entries :=
    [(["project"], .directory), (["project", "go"], .directory),
      (["project", "go", "a.go"], .file singleSource)]
  working := ["project"]

def separateSettings : Settings :=
  ⟨.text "calc", ["go/*.go"], "build"⟩

theorem separateProject_kept :
    ∃ result, separateProject.WellFormed ∧
      separateProject.contentAt? separateProject.working = some .directory ∧
      (run ⟨.current, []⟩ separateSettings separateProject).1.outcome = .ok result ∧
      result.generated = true ∧ ⟨.current, ["go", "a.go"]⟩ ∈ result.sources ∧
      ∃ bytes, readFile separateProject ⟨.current, ["go", "a.go"]⟩ = .ok bytes ∧
        readFile (run ⟨.current, []⟩ separateSettings separateProject).2
          ⟨.current, ["go", "a.go"]⟩ = .ok bytes := by
  have evaluated : (run ⟨.current, []⟩ separateSettings separateProject).1.outcome.toOption.map
      (fun result => (result.sources, result.generated)) =
        some ([⟨.current, ["go", "a.go"]⟩], true) := by decide +kernel
  obtain ⟨result, ended, found⟩ := Option.map_eq_some_iff.mp evaluated
  obtain ⟨sources, generated⟩ := Prod.ext_iff.mp found
  have wellFormed : separateProject.WellFormed := by decide +kernel
  have source : ⟨.current, ["go", "a.go"]⟩ ∈ result.sources := by
    rw [show result.sources = _ from sources]
    exact List.mem_singleton_self _
  have leads : LeadsTo (run ⟨.current, []⟩ separateSettings separateProject).2
      (Output.directory ⟨.current, []⟩ separateSettings.output) ["project", "build", "gonode"] :=
    eq_ok_of_toOption (by decide +kernel)
  refine ⟨result, wellFormed, rfl, eq_ok_of_toOption ended, generated, source, ?_⟩
  refine source_kept_outside_output wellFormed rfl (eq_ok_of_toOption ended) _ source ?_
  intro _ place leadsToPlace
  rw [leadsToPlace.unique leads]
  decide +kernel

/-! ## A source inside of the output directory -/

/-- A project whose only source stands in the directory for the generated files. -/
def overlappingProject : FileTree where
  entries :=
    [(["project"], .directory), (["project", "gonode"], .directory),
      (["project", "gonode", "a.go"], .file singleSource)]
  working := ["project"]

def overlappingSettings : Settings :=
  ⟨.text "calc", ["gonode/*.go"], ""⟩

/-- The output directory is emptied for the addon, also of the source that the addon was
made from. -/
theorem source_inside_output_removed :
    overlappingProject.WellFormed ∧
      overlappingProject.contentAt? overlappingProject.working = some .directory ∧
      Settings.ofDatum
          (.mapping [(.text "name", .text "calc"), (.text "files", .sequence [.text "gonode/*.go"])])
          ".gonode.yaml" = .ok overlappingSettings ∧
      ∃ result,
        (run ⟨.current, []⟩ overlappingSettings overlappingProject).1.outcome = .ok result ∧
        ⟨.current, ["gonode", "a.go"]⟩ ∈ result.sources ∧
        readFile overlappingProject ⟨.current, ["gonode", "a.go"]⟩ = .ok singleSource ∧
        readFile (run ⟨.current, []⟩ overlappingSettings overlappingProject).2
            ⟨.current, ["gonode", "a.go"]⟩ =
          refusal .noEntry ⟨.current, ["gonode", "a.go"]⟩ := by
  have evaluated :
      (run ⟨.current, []⟩ overlappingSettings overlappingProject).1.outcome.toOption.map
        RunResult.sources = some [⟨.current, ["gonode", "a.go"]⟩] := by decide +kernel
  obtain ⟨result, ended, sources⟩ := Option.map_eq_some_iff.mp evaluated
  have source : ⟨.current, ["gonode", "a.go"]⟩ ∈ result.sources := by
    rw [sources]
    exact List.mem_singleton_self _
  have isRead : readFile overlappingProject ⟨.current, ["gonode", "a.go"]⟩ = .ok singleSource :=
    eq_ok_of_toOption (by decide +kernel)
  have removed : locate (run ⟨.current, []⟩ overlappingSettings overlappingProject).2 true
      ⟨.current, ["gonode", "a.go"]⟩ = .ok (.vacant ["project", "gonode", "a.go"]) :=
    eq_ok_of_toOption (by decide +kernel)
  refine ⟨by decide +kernel, rfl, rfl, result, eq_ok_of_toOption ended, source, isRead, ?_⟩
  rw [readFile, removed]
  rfl

end AddonBindings
