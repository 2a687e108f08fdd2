import AddonBindings.Proofs.CommandLine.FailureNotice
import AddonBindings.Proofs.Run.Outcome

/-!
Contract: a run writes a complete addon or nothing.

Owns:
- the failures after which all files are as they were;
- the failure of a run with a source that cannot be extracted;
- what has succeeded before anything is written;
- the truth of the notice that nothing was written.

Does not own: what the files hold after an addon was written.
-/

namespace AddonBindings

open AddonBindings.Files
open AddonBindings.Traversal

variable {tree : FileTree} {project : Path} {settings : Settings}

/-- A failure that is reported to the user leaves all files as they were: the writes
only fail with a refused access. -/
theorem unchanged_of_reported {fault : GenerationFault}
    (failed : (run project settings tree).1.outcome = .error (.generation fault)) :
    (run project settings tree).2 = tree := by
  have ended := runEnd tree project settings
  generalize run project settings tree = result at ended failed
  cases ended with
  | unprepared => rfl
  | empty => rfl
  | unwritten => cases failed
  | written => cases failed

theorem unchanged_of_unprepared {fault : Fault}
    (failed : (prepare tree project settings).outcome = .error fault) :
    (run project settings tree).2 = tree := by
  rcases prepared : prepare tree project settings with ⟨messages, outcome⟩
  rw [prepared] at failed
  cases failed
  rw [run_of_prepare_error prepared]

theorem unchanged_of_not_generated {result : RunResult}
    (succeeded : (run project settings tree).1.outcome = .ok result)
    (nothing : result.generated = false) : (run project settings tree).2 = tree := by
  have ended := runEnd tree project settings
  generalize run project settings tree = reached at ended succeeded
  cases ended with
  | unprepared => rfl
  | empty => rfl
  | unwritten => cases succeeded
  | written prepared there wrote standing =>
      cases succeeded
      subst standing
      simp [RunResult.generated, Output.addonPaths] at nothing

/-- With a source that cannot be extracted, a run ends at the first such source. -/
theorem run_of_failing_source {sources : List Path}
    (discovered : Project.sources tree project settings.patterns = .ok sources) {source : Path}
    (member : source ∈ sources) {refused : Fault}
    (failing : Export.ofFile tree source = .error refused) :
    ∃ before path later found fault,
      sources = before ++ path :: later ∧ before.mapM (Export.ofFile tree) = .ok found ∧
        Export.ofFile tree path = .error fault ∧
        run project settings tree =
          (⟨discoveryMessage settings.patterns sources ::
              List.zipWith extractionMessage before found, .error fault⟩, tree) := by
  obtain ⟨before, path, found, fault, first⟩ := exists_firstFailure member failing
  obtain ⟨later, split⟩ := first.split
  exact ⟨before, path, later, found, fault, split, first.succeeded, first.failed,
    run_of_prepare_error (prepare_of_firstFailure discovered first)⟩

/-- An addon that is generated has a text as its name, and both of its files. -/
theorem sources_of_addon {functions : List ExportedFunction} {name : Datum} {addon : Addon}
    (generated : Addon.generate functions name = .ok addon) :
    name = .text addon.name ∧ Native.source functions addon.name = .ok addon.bindings.native ∧
      Declaration.source functions addon.name = .ok addon.bindings.declaration := by
  cases checked : checkAddonName name with
  | error fault => simp [Addon.generate, Bindings.generate, checked, Except.mapError, bind,
      Except.bind] at generated
  | ok text =>
      have isText : name = .text text := by
        unfold checkAddonName at checked
        split at checked
        · split at checked
          · cases checked
            rfl
          · cases checked
        · cases checked
      cases native : Native.source functions text with
      | error fault => simp [Addon.generate, Bindings.generate, checked, native, Except.mapError,
          bind, Except.bind] at generated
      | ok nativeText =>
          cases declaration : Declaration.source functions text with
          | error fault => simp [Addon.generate, Bindings.generate, checked, native, declaration,
              Except.mapError, bind, Except.bind] at generated
          | ok declarationText =>
              simp only [Addon.generate, Bindings.generate, checked, native, declaration,
                Except.mapError, bind, Except.bind, pure, Except.pure, Except.ok.injEq] at generated
              subst generated
              exact ⟨isText, native, declaration⟩

/-- A run that has generated an addon has extracted every source that discovery finds,
and has made both texts from their functions. -/
theorem prepared_of_generated {result : RunResult}
    (succeeded : (run project settings tree).1.outcome = .ok result)
    (generated : result.generated = true) :
    Project.sources tree project settings.patterns = .ok result.sources ∧
      (∃ found, result.sources.mapM (Export.ofFile tree) = .ok found ∧
        result.functions = found.flatten) ∧
      ∃ name native declaration, settings.name = .text name ∧
        Native.source result.functions name = .ok native ∧
        Declaration.source result.functions name = .ok declaration := by
  have ended := runEnd tree project settings
  generalize run project settings tree = reached at ended succeeded
  cases ended with
  | unprepared => cases succeeded
  | empty =>
      cases succeeded
      cases generated
  | unwritten => cases succeeded
  | written prepared there wrote standing =>
      cases succeeded
      have found := prepared_of_ok (congrArg Attempt.outcome prepared)
      obtain ⟨named, native, declaration⟩ := sources_of_addon (found.generated _ there)
      exact ⟨found.discovered, found.extracted, _, _, _, named, native, declaration⟩

/-- A generation that is followed by the notice leaves all files as they were. -/
theorem unchanged_of_failureNotice {choice : CommandLine.ProjectChoice} {output : Option String}
    (noticed : .ok CommandLine.failureNotice ∈
      CommandLine.generationLines choice.directory (CommandLine.generation choice output tree).1) :
    (CommandLine.generate choice output tree).2 = tree := by
  obtain ⟨fault, failed⟩ := CommandLine.reported_of_failureNotice_mem noticed
  show (CommandLine.generation choice output tree).2 = tree
  unfold CommandLine.generation at failed ⊢
  split
  next => rfl
  next settings loaded =>
    rw [loaded] at failed
    exact unchanged_of_reported failed

/-- **A run writes a complete addon or nothing.**

1. After a failure that is reported, after a failure before the writes, and after a
   run that has generated nothing, all files are as they were.
2. If a source that was found cannot be extracted, the run fails exactly as the first
   such source does, whatever comes after it, and the messages until then are the one
   on the discovery and those on the sources before it.
3. If an addon was generated, all sources that were found have been extracted, and both
   texts have been made from their functions.
4. The notice that nothing was written is only printed where all files are as they
   were. -/
theorem run_all_or_nothing (tree : FileTree) (project : Path) (settings : Settings) :
    (((∃ fault, (run project settings tree).1.outcome = .error (.generation fault)) ∨
          (∃ fault, (prepare tree project settings).outcome = .error fault) ∨
          ∃ result, (run project settings tree).1.outcome = .ok result ∧
            result.generated = false) →
        (run project settings tree).2 = tree) ∧
      (∀ sources, Project.sources tree project settings.patterns = .ok sources →
        ∀ source ∈ sources, ∀ refused, Export.ofFile tree source = .error refused →
          ∃ before path later found fault,
            sources = before ++ path :: later ∧ before.mapM (Export.ofFile tree) = .ok found ∧
              Export.ofFile tree path = .error fault ∧
              run project settings tree =
                (⟨discoveryMessage settings.patterns sources ::
                    List.zipWith extractionMessage before found, .error fault⟩, tree)) ∧
      (∀ result, (run project settings tree).1.outcome = .ok result → result.generated = true →
        Project.sources tree project settings.patterns = .ok result.sources ∧
          (∃ found, result.sources.mapM (Export.ofFile tree) = .ok found ∧
            result.functions = found.flatten) ∧
          ∃ name native declaration, settings.name = .text name ∧
            Native.source result.functions name = .ok native ∧
            Declaration.source result.functions name = .ok declaration) ∧
      ∀ choice output, ∃ ending,
        (CommandLine.generate choice output tree).1 =
            CommandLine.Outcome.print ending
              (CommandLine.generationLines choice.directory
                (CommandLine.generation choice output tree).1) ∧
          (.ok CommandLine.failureNotice ∈
              CommandLine.generationLines choice.directory
                (CommandLine.generation choice output tree).1 →
            (CommandLine.generate choice output tree).2 = tree) := by
  refine ⟨?_, ?_, ?_, ?_⟩
  · rintro (⟨fault, failed⟩ | ⟨fault, failed⟩ | ⟨result, succeeded, nothing⟩)
    · exact unchanged_of_reported failed
    · exact unchanged_of_unprepared failed
    · exact unchanged_of_not_generated succeeded nothing
  · intro sources discovered source member refused failing
    exact run_of_failing_source discovered member failing
  · intro result succeeded generated
    exact prepared_of_generated succeeded generated
  · intro choice output
    exact ⟨_, rfl, unchanged_of_failureNotice⟩

end AddonBindings
