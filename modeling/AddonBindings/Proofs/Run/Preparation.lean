import AddonBindings.Proofs.Traversal
import AddonBindings.Run

/-!
Contract: what the preparation of a run gives.

Owns:
- the messages and the outcome of extraction, told by the first file that fails;
- what a successful preparation has found.

Does not own: the writes, which are in `AddonBindings.Proofs.Run.Outcome`.
-/

namespace AddonBindings

open AddonBindings.Files
open AddonBindings.Traversal

variable {tree : FileTree} {project : Path} {settings : Settings}

def extractionMessage (path : Path) (functions : List ExportedFunction) : Message :=
  ⟨.info, path.text ++ ": " ++ toString functions.length ++ " exported function(s)"⟩

private theorem extractFile_of_ok {path : Path} {functions : List ExportedFunction}
    (extracted : Export.ofFile tree path = .ok functions) :
    extractFile tree path = ⟨[extractionMessage path functions], .ok functions⟩ := by
  simp [extractFile, extracted, extractionMessage, Attempt.done]

private theorem extractFile_of_error {path : Path} {fault : Fault}
    (failed : Export.ofFile tree path = .error fault) :
    extractFile tree path = ⟨[], .error fault⟩ := by
  simp only [extractFile, failed, Attempt.bind_eq_andThen, Attempt.silent_error_andThen]
  rfl

private theorem extractFiles_append_of_ok {paths : List Path} {found : List (List ExportedFunction)}
    (extracted : paths.mapM (Export.ofFile tree) = .ok found) (later : List Path) :
    extractFiles tree (paths ++ later) =
      ⟨List.zipWith extractionMessage paths found ++ (extractFiles tree later).messages,
        (extractFiles tree later).outcome.map (found.flatten ++ ·)⟩ := by
  induction paths generalizing found with
  | nil =>
      cases extracted
      rw [List.nil_append, List.zipWith_nil_left, List.nil_append]
      rcases extractFiles tree later with ⟨messages, outcome⟩
      cases outcome <;> rfl
  | cons path rest inductionHypothesis =>
      obtain ⟨functions, others, head, tail, rfl⟩ := mapM_cons_eq_ok_iff.mp extracted
      rw [List.cons_append, extractFiles, extractFile_of_ok head, inductionHypothesis tail]
      rcases extractFiles tree later with ⟨messages, outcome⟩
      cases outcome <;> simp [Attempt.done, Except.map]

private theorem extractFiles_of_ok {paths : List Path} {found : List (List ExportedFunction)}
    (extracted : paths.mapM (Export.ofFile tree) = .ok found) :
    extractFiles tree paths = ⟨List.zipWith extractionMessage paths found, .ok found.flatten⟩ := by
  have joined := extractFiles_append_of_ok extracted []
  rwa [List.append_nil, extractFiles, Attempt.pure_eq_done, Attempt.done, List.append_nil,
    Except.map, List.append_nil] at joined

/-- Extraction fails as the first failing file does, after the messages on the files
before it. -/
theorem extractFiles_of_firstFailure {paths before : List Path} {path : Path}
    {found : List (List ExportedFunction)} {fault : Fault}
    (first : FirstFailure (Export.ofFile tree) paths before path found fault) :
    extractFiles tree paths = ⟨List.zipWith extractionMessage before found, .error fault⟩ := by
  obtain ⟨⟨later, rfl⟩, succeeded, failed⟩ := first
  rw [extractFiles_append_of_ok succeeded, extractFiles, extractFile_of_error failed]
  simp [Except.map]

/-- Only functions that files have given are extracted. -/
theorem ok_of_extractFiles_ok {paths : List Path} {functions : List ExportedFunction}
    (extracted : (extractFiles tree paths).outcome = .ok functions) :
    ∃ found, paths.mapM (Export.ofFile tree) = .ok found ∧ functions = found.flatten := by
  rcases firstFailure_or_ok (Export.ofFile tree) paths with
    ⟨before, path, found, fault, first⟩ | ⟨found, succeeded⟩
  · rw [extractFiles_of_firstFailure first] at extracted
    cases extracted
  · rw [extractFiles_of_ok succeeded] at extracted
    cases extracted
    exact ⟨found, succeeded, rfl⟩

/-- A run stops at the first source that fails, after the messages on those before it. -/
theorem prepare_of_firstFailure {sources before : List Path} {path : Path}
    {found : List (List ExportedFunction)} {fault : Fault}
    (discovered : Project.sources tree project settings.patterns = .ok sources)
    (first : FirstFailure (Export.ofFile tree) sources before path found fault) :
    prepare tree project settings =
      ⟨discoveryMessage settings.patterns sources :: List.zipWith extractionMessage before found,
        .error fault⟩ := by
  simp [prepare, discovered, extractFiles_of_firstFailure first]

/-- What a preparation has prepared: the sources that discovery finds, the functions
of all of them, and the addon made of these functions if there are any. -/
structure Prepared (tree : FileTree) (project : Path) (settings : Settings)
    (preparation : Preparation) : Prop where
  discovered : Project.sources tree project settings.patterns = .ok preparation.sources
  extracted : ∃ found, preparation.sources.mapM (Export.ofFile tree) = .ok found ∧
    preparation.functions = found.flatten
  generated : ∀ addon, preparation.addon = some addon →
    Addon.generate preparation.functions settings.name = .ok addon

theorem prepared_of_ok {preparation : Preparation}
    (succeeded : (prepare tree project settings).outcome = .ok preparation) :
    Prepared tree project settings preparation := by
  cases discovery : Project.sources tree project settings.patterns with
  | error fault => simp [prepare, discovery, Attempt.silent] at succeeded
  | ok sources =>
      rcases extraction : extractFiles tree sources with ⟨messages, outcome⟩
      cases outcome with
      | error fault => simp [prepare, discovery, extraction] at succeeded
      | ok functions =>
          have found := ok_of_extractFiles_ok (congrArg Attempt.outcome extraction)
          simp only [prepare, discovery, extraction, Attempt.bind_eq_andThen,
            Attempt.silent_ok_andThen, Attempt.report_andThen, Attempt.mk_ok_andThen] at succeeded
          split at succeeded
          next =>
            cases succeeded
            exact ⟨discovery, found, fun addon same => by cases same⟩
          next =>
            cases generation : Addon.generate functions settings.name with
            | error fault => simp [generation, Attempt.silent] at succeeded
            | ok addon =>
                simp only [generation, Attempt.silent_ok_andThen] at succeeded
                cases succeeded
                refine ⟨discovery, found, fun other same => ?_⟩
                cases same
                exact generation

end AddonBindings
