import AddonBindings.Proofs.Files.Change
import AddonBindings.Proofs.Run.Preparation

/-!
Contract: how a run ends.

Owns: the four ends of a run, each with its messages, its outcome and the files
after it.

Does not own: what the preparation has found, which is in
`AddonBindings.Proofs.Run.Preparation`.
-/

namespace AddonBindings

open AddonBindings.Files

variable {tree : FileTree} {project : Path} {settings : Settings}

theorem run_of_prepare_error {messages : List Message} {fault : Fault}
    (failed : prepare tree project settings = ⟨messages, .error fault⟩) :
    run project settings tree = (⟨messages, .error fault⟩, tree) := by
  simp only [run, failed]

private theorem run_of_no_addon {messages : List Message} {preparation : Preparation}
    (prepared : prepare tree project settings = ⟨messages, .ok preparation⟩)
    (nothing : preparation.addon = none) :
    run project settings tree =
      (⟨messages, .ok ⟨preparation.sources, preparation.functions, []⟩⟩, tree) := by
  simp [run, prepared, finish, nothing, Attempt.done]

private theorem run_of_write_error {messages : List Message} {preparation : Preparation}
    {addon : Addon}
    {failure : Failure} {changed : FileTree}
    (prepared : prepare tree project settings = ⟨messages, .ok preparation⟩)
    (there : preparation.addon = some addon)
    (failed : (Output.write (Output.directory project settings.output) addon.name
      addon.bindings).run.run tree = (.error failure, changed)) :
    run project settings tree = (⟨messages, .error (.access failure)⟩, changed) := by
  simp [run, prepared, finish, there, failed, Attempt.silent]

/-- After a successful writing, the files that were written are told one by one. -/
theorem run_of_write_ok {messages : List Message} {preparation : Preparation} {addon : Addon}
    {written : List Path} {changed : FileTree}
    (prepared : prepare tree project settings = ⟨messages, .ok preparation⟩)
    (there : preparation.addon = some addon)
    (succeeded : (Output.write (Output.directory project settings.output) addon.name
      addon.bindings).run.run tree = (.ok written, changed)) :
    run project settings tree =
      (⟨messages ++ written.map writtenMessage,
        .ok ⟨preparation.sources, preparation.functions, written⟩⟩, changed) := by
  simp [run, prepared, finish, there, succeeded]

inductive RunEnd (tree : FileTree) (project : Path) (settings : Settings) :
    Attempt RunResult × FileTree → Prop where
  /-- The preparation has failed. -/
  | unprepared {messages : List Message} {fault : Fault}
      (failed : prepare tree project settings = ⟨messages, .error fault⟩) :
      RunEnd tree project settings (⟨messages, .error fault⟩, tree)
  /-- There is no exported function. -/
  | empty {messages : List Message} {preparation : Preparation}
      (prepared : prepare tree project settings = ⟨messages, .ok preparation⟩)
      (nothing : preparation.addon = none) :
      RunEnd tree project settings
        (⟨messages, .ok ⟨preparation.sources, preparation.functions, []⟩⟩, tree)
  /-- The addon cannot be written. -/
  | unwritten {messages : List Message} {preparation : Preparation} {addon : Addon}
      {failure : Failure} {changed : FileTree}
      (prepared : prepare tree project settings = ⟨messages, .ok preparation⟩)
      (there : preparation.addon = some addon)
      (failed : (Output.write (Output.directory project settings.output) addon.name
        addon.bindings).run.run tree = (.error failure, changed)) :
      RunEnd tree project settings (⟨messages, .error (.access failure)⟩, changed)
  /-- The addon is written. -/
  | written {messages : List Message} {preparation : Preparation} {addon : Addon}
      {paths : List Path} {changed : FileTree}
      (prepared : prepare tree project settings = ⟨messages, .ok preparation⟩)
      (there : preparation.addon = some addon)
      (succeeded : (Output.write (Output.directory project settings.output) addon.name
        addon.bindings).run.run tree = (.ok paths, changed))
      (standing : paths = Output.addonPaths (Output.directory project settings.output) addon.name) :
      RunEnd tree project settings
        (⟨messages ++ paths.map writtenMessage,
          .ok ⟨preparation.sources, preparation.functions, paths⟩⟩, changed)

/-- Every run comes to one of these ends. -/
theorem runEnd (tree : FileTree) (project : Path) (settings : Settings) :
    RunEnd tree project settings (run project settings tree) := by
  rcases prepared : prepare tree project settings with ⟨messages, outcome⟩
  cases outcome with
  | error fault =>
      rw [run_of_prepare_error prepared]
      exact .unprepared prepared
  | ok preparation =>
      cases there : preparation.addon with
      | none =>
          rw [run_of_no_addon prepared there]
          exact .empty prepared there
      | some addon =>
          rcases wrote : (Output.write (Output.directory project settings.output) addon.name
            addon.bindings).run.run tree with ⟨answer, changed⟩
          cases answer with
          | error failure =>
              rw [run_of_write_error prepared there wrote]
              exact .unwritten prepared there wrote
          | ok written =>
              rw [run_of_write_ok prepared there wrote]
              exact .written prepared there wrote (Output.answer_of_write wrote)

/-- After a preparation only an access to files can fail. -/
theorem run_of_prepare_ok {preparation : Preparation}
    (prepared : (prepare tree project settings).outcome = .ok preparation) :
    (∃ written, (run project settings tree).1.outcome =
        .ok ⟨preparation.sources, preparation.functions, written⟩) ∨
      ∃ failure, (run project settings tree).1.outcome = .error (.access failure) := by
  have ended := runEnd tree project settings
  generalize run project settings tree = reached at ended ⊢
  cases ended with
  | unprepared failed =>
      rw [failed] at prepared
      cases prepared
  | empty found _ =>
      rw [found] at prepared
      cases prepared
      exact .inl ⟨_, rfl⟩
  | unwritten => exact .inr ⟨_, rfl⟩
  | written found _ _ _ =>
      rw [found] at prepared
      cases prepared
      exact .inl ⟨_, rfl⟩

end AddonBindings
