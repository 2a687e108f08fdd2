import Mathlib.Data.List.TakeWhile
import AddonBindings.Output
import AddonBindings.Proofs.Files.Shape
import AddonBindings.Proofs.Text.Lines

/-!
Contract: the names of an addon's files.

Owns:
- paths made of one name;
- the names of the two files in the output directory, for every name that an addon may
  have.

Does not own: the writing, which is in `AddonBindings.Proofs.Output.Writing`.
-/

namespace AddonBindings.Output

open AddonBindings.Files

variable {directory : Path} {addon : String}

/-! ## Paths of one name -/

/-- A text without slashes is the path of one name. -/
theorem ofText_of_name {name : String} (slashless : '/' ∉ name.toList) (filled : name ≠ "")
    (notPoint : name ≠ ".") : Path.ofText name = ⟨.current, [name]⟩ := by
  have anchored : Path.anchorOf name = .current := by
    have start : name.toList.takeWhile (· = '/') = [] := by
      cases characters : name.toList with
      | nil => rfl
      | cons first rest =>
          rw [characters, List.mem_cons, not_or] at slashless
          have differs : decide (first = '/') = false := decide_eq_false (Ne.symm slashless.1)
          simp [List.takeWhile, differs]
    rw [Path.anchorOf, start]
    rfl
  have named : Path.partsOf name = [name] := by
    simp [Path.partsOf, Text.splitText, Text.splitAtMark_of_not_mem slashless, filled, notPoint]
  rw [Path.ofText, anchored, named]

/-! ## The two files -/

def nativeName (addon : String) : String :=
  addon ++ ".cc"

def declarationName (addon : String) : String :=
  addon ++ ".ts"

theorem nativeName_ne_declarationName (addon : String) :
    nativeName addon ≠ declarationName addon := by
  intro same
  have characters := congrArg String.toList same
  rw [nativeName, declarationName, String.toList_append, String.toList_append,
    List.append_cancel_left_eq] at characters
  revert characters
  decide

private theorem slashless_of_isAddonName (accepted : isAddonName addon.toList = true) :
    '/' ∉ addon.toList := by
  intro member
  cases characters : addon.toList with
  | nil => rw [characters] at member; cases member
  | cons first rest =>
      rw [characters] at accepted member
      rw [isAddonName, Bool.and_eq_true] at accepted
      obtain ⟨isStart, ending⟩ := accepted
      have onward : '/' ∈ rest.takeWhile Text.isAsciiNameRest ∨
          '/' ∈ rest.dropWhile Text.isAsciiNameRest ∨ '/' = first := by
        rcases List.mem_cons.mp member with same | inRest
        · exact .inr (.inr same)
        · rw [← List.takeWhile_append_dropWhile (p := Text.isAsciiNameRest) (l := rest),
            List.mem_append] at inRest
          exact inRest.imp id .inl
      rcases onward with inName | inEnding | isFirst
      · have isRest := List.mem_takeWhile_imp inName
        revert isRest
        decide
      · split at ending
        · rename_i nothing
          rw [nothing] at inEnding
          cases inEnding
        · rename_i lineFeed
          rw [lineFeed] at inEnding
          revert inEnding
          decide
        · cases ending
      · rw [← isFirst] at isStart
        revert isStart
        decide

/-- The end that makes a file name of an addon's name. -/
def IsFileEnding (ending : String) : Prop :=
  '/' ∉ ending.toList ∧ 2 < ending.length

private theorem ofText_fileName {ending : String} (isEnding : IsFileEnding ending)
    (accepted : isAddonName addon.toList = true) :
    Path.ofText (addon ++ ending) = ⟨.current, [addon ++ ending]⟩ ∧
      IsEntryName (addon ++ ending) := by
  obtain ⟨slashless, long⟩ := isEnding
  have longer : 2 < (addon ++ ending).length := by
    rw [String.length_append]
    omega
  have differs (short : String) (isShort : short.length ≤ 2) : addon ++ ending ≠ short := by
    intro same
    rw [same] at longer
    omega
  refine ⟨ofText_of_name ?_ (differs "" (by decide)) (differs "." (by decide)),
    differs "/" (by decide), differs "." (by decide), differs ".." (by decide)⟩
  rw [String.toList_append, List.mem_append, not_or]
  exact ⟨slashless_of_isAddonName accepted, slashless⟩

theorem nativePath_eq (accepted : isAddonName addon.toList = true) :
    nativePath directory addon = directory.child (nativeName addon) := by
  rw [nativePath, (ofText_fileName ⟨by decide, by decide⟩ accepted).1]
  rfl

theorem declarationPath_eq (accepted : isAddonName addon.toList = true) :
    declarationPath directory addon = directory.child (declarationName addon) := by
  rw [declarationPath, (ofText_fileName ⟨by decide, by decide⟩ accepted).1]
  rfl

theorem isEntryName_nativeName (accepted : isAddonName addon.toList = true) :
    IsEntryName (nativeName addon) :=
  (ofText_fileName ⟨by decide, by decide⟩ accepted).2

theorem isEntryName_declarationName (accepted : isAddonName addon.toList = true) :
    IsEntryName (declarationName addon) :=
  (ofText_fileName ⟨by decide, by decide⟩ accepted).2

end AddonBindings.Output
