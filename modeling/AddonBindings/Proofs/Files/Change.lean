import AddonBindings.Output

/-!
Contract: what a change of files gives when it succeeds.

Owns: the successful run of two changes, one after the other, and the answer of
writing an addon.

Does not own: what a change does to the files.
-/

namespace AddonBindings.Files

variable {α β : Type}

/-- One change after the other succeeds if both do, the second on the files that the
first has left. -/
theorem Change.bind_eq_ok_iff {first : Change α} {next : α → Change β} {tree changed : FileTree}
    {answer : β} :
    (first >>= next).run.run tree = (.ok answer, changed) ↔
      ∃ value between, first.run.run tree = (.ok value, between) ∧
        (next value).run.run between = (.ok answer, changed) := by
  rw [ExceptT.run_bind, StateT.run_bind]
  rcases ran : first.run.run tree with ⟨outcome, between⟩
  cases outcome with
  | error failure =>
      constructor
      · intro same
        cases same
      · rintro ⟨_, _, same, -⟩
        cases same
  | ok value =>
      constructor
      · intro succeeded
        exact ⟨value, between, rfl, succeeded⟩
      · rintro ⟨_, _, same, succeeded⟩
        cases same
        exact succeeded

theorem Change.pure_eq_ok_iff {value answer : α} {tree changed : FileTree} :
    (pure value : Change α).run.run tree = (.ok answer, changed) ↔
      value = answer ∧ tree = changed := by
  constructor
  · intro same
    cases same
    exact ⟨rfl, rfl⟩
  · rintro ⟨rfl, rfl⟩
    rfl

end AddonBindings.Files

namespace AddonBindings.Output

open AddonBindings.Files

def addonPaths (directory : Path) (addon : String) : List Path :=
  [nativePath directory addon, declarationPath directory addon]

/-- The answer of a successful writing is where the two files stand. -/
theorem answer_of_write {directory : Path} {addon : String} {bindings : Bindings}
    {tree changed : FileTree} {written : List Path}
    (succeeded : (write directory addon bindings).run.run tree = (.ok written, changed)) :
    written = addonPaths directory addon := by
  unfold write at succeeded
  obtain ⟨-, made, -, afterMade⟩ := Change.bind_eq_ok_iff.mp succeeded
  obtain ⟨-, cleared, -, afterCleared⟩ := Change.bind_eq_ok_iff.mp afterMade
  obtain ⟨-, native, -, afterNative⟩ := Change.bind_eq_ok_iff.mp afterCleared
  obtain ⟨-, declaration, -, answered⟩ := Change.bind_eq_ok_iff.mp afterNative
  exact (Change.pure_eq_ok_iff.mp answered).1.symm

end AddonBindings.Output
