import Mathlib.Data.List.Sort
import AddonBindings.Files.Path
import AddonBindings.Sorting

/-!
Contract: the order of paths.

Owns:
- that sorting by insertion is the sorting of the library;
- that paths are in a total order, name by name;
- that two paths from the same start which stand in both orders are one path;
- that the order of a sorted list of such paths is the only one.

Does not own: which paths are put into order.
-/

namespace AddonBindings.Sorting

variable {α : Type}

private theorem insert_eq_orderedInsert (le : α → α → Bool) (item : α) (items : List α) :
    insert le item items = items.orderedInsert (le · · = true) item := by
  induction items with
  | nil => rfl
  | cons first rest inductionHypothesis =>
      rw [insert, List.orderedInsert_cons, inductionHypothesis]

theorem sort_eq_insertionSort (le : α → α → Bool) (items : List α) :
    sort le items = items.insertionSort (le · · = true) := by
  induction items with
  | nil => rfl
  | cons first rest inductionHypothesis =>
      rw [sort, insert_eq_orderedInsert, inductionHypothesis, List.insertionSort_cons]

end AddonBindings.Sorting

namespace AddonBindings.Files

/-! ## Names in order -/

namespace Path

private theorem stepsLe_total (left right : List String) :
    stepsLe left right = true ∨ stepsLe right left = true := by
  induction left generalizing right with
  | nil => exact .inl rfl
  | cons step steps inductionHypothesis =>
      cases right with
      | nil => exact .inr rfl
      | cons other others =>
          rw [stepsLe, stepsLe]
          by_cases same : step = other
          · rw [if_pos same, if_pos same.symm]
            exact inductionHypothesis others
          · rw [if_neg same, if_neg (Ne.symm same), decide_eq_true_iff, decide_eq_true_iff]
            rcases String.le_total step other with le | le
            · exact .inl (Std.lt_of_le_of_ne le same)
            · exact .inr (Std.lt_of_le_of_ne le (Ne.symm same))

private theorem stepsLe_cons {step other : String} {steps others : List String} :
    stepsLe (step :: steps) (other :: others) = true ↔
      step < other ∨ step = other ∧ stepsLe steps others = true := by
  rw [stepsLe]
  by_cases same : step = other
  · simp [same]
  · simp [same]

private theorem stepsLe_trans {first second third : List String}
    (firstLe : stepsLe first second = true)
    (secondLe : stepsLe second third = true) : stepsLe first third = true := by
  induction first generalizing second third with
  | nil => rfl
  | cons step steps inductionHypothesis =>
      cases second with
      | nil => cases firstLe
      | cons other others =>
          cases third with
          | nil => cases secondLe
          | cons last rest =>
              rw [stepsLe_cons] at firstLe secondLe ⊢
              rcases firstLe with below | ⟨rfl, firstLe⟩
              · rcases secondLe with stillBelow | ⟨rfl, -⟩
                · exact .inl (String.lt_trans below stillBelow)
                · exact .inl below
              · rcases secondLe with below | ⟨rfl, secondLe⟩
                · exact .inl below
                · exact .inr ⟨rfl, inductionHypothesis firstLe secondLe⟩

private theorem stepsLe_antisymm {left right : List String} (leftLe : stepsLe left right = true)
    (rightLe : stepsLe right left = true) : left = right := by
  induction left generalizing right with
  | nil =>
      cases right with
      | nil => rfl
      | cons other others => cases rightLe
  | cons step steps inductionHypothesis =>
      cases right with
      | nil => cases leftLe
      | cons other others =>
          rw [stepsLe_cons] at leftLe rightLe
          rcases leftLe with below | ⟨rfl, leftLe⟩
          · rcases rightLe with above | ⟨rfl, -⟩
            · exact absurd above (String.lt_asymm below)
            · exact absurd below (String.lt_irrefl _)
          · rcases rightLe with above | ⟨-, rightLe⟩
            · exact absurd above (String.lt_irrefl _)
            · rw [inductionHypothesis leftLe rightLe]

/-! ## Paths in order -/

theorem le_total (left right : Path) : left.le right = true ∨ right.le left = true :=
  stepsLe_total left.steps right.steps

theorem le_trans (first second third : Path) (firstLe : first.le second = true)
    (secondLe : second.le third = true) : first.le third = true :=
  stepsLe_trans firstLe secondLe

private theorem le_antisymm {left right : Path} (sameStart : left.anchor = right.anchor)
    (leftLe : left.le right = true) (rightLe : right.le left = true) : left = right := by
  have steps : left.steps = right.steps := stepsLe_antisymm leftLe rightLe
  obtain ⟨anchor, parts⟩ := left
  obtain ⟨other, others⟩ := right
  cases sameStart
  cases anchor with
  | current => exact congrArg (Path.mk .current) steps
  | root => exact congrArg (Path.mk .root) (List.cons.inj steps).2
  | doubleRoot => exact congrArg (Path.mk .doubleRoot) (List.cons.inj steps).2

/-! ## Lists in order -/

/-- Two lists in order with the same paths, which all start at one place, are equal. -/
theorem eq_of_perm_of_pairwise {anchor : Anchor} {paths others : List Path}
    (same : paths.Perm others) (start : ∀ path ∈ paths, path.anchor = anchor)
    (ordered : paths.Pairwise (le · · = true)) (othersOrdered : others.Pairwise (le · · = true)) :
    paths = others := by
  refine same.eq_of_pairwise (fun left right isLeft isRight leftLe rightLe => ?_) ordered
    othersOrdered
  exact le_antisymm ((start left isLeft).trans (start right (same.mem_iff.mpr isRight)).symm)
    leftLe rightLe

theorem pairwise_mergeSort (paths : List Path) :
    (paths.mergeSort le).Pairwise (le · · = true) :=
  List.pairwise_mergeSort le_trans (fun left right => by simpa using le_total left right) paths

instance : Std.Total (fun left right : Path => left.le right = true) :=
  ⟨le_total⟩

instance : IsTrans Path (fun left right => left.le right = true) :=
  ⟨le_trans⟩

/-- Sorting by insertion puts paths from one start into the order that any sorting gives. -/
theorem sort_eq_mergeSort {anchor : Anchor} {paths : List Path}
    (start : ∀ path ∈ paths, path.anchor = anchor) :
    Sorting.sort le paths = paths.mergeSort le := by
  rw [Sorting.sort_eq_insertionSort]
  refine eq_of_perm_of_pairwise ?_ (fun path member => start path (List.mem_insertionSort _ |>.mp member))
    (List.pairwise_insertionSort _ paths) (pairwise_mergeSort paths)
  exact (List.perm_insertionSort _ paths).trans (List.mergeSort_perm paths le).symm

end Path

end AddonBindings.Files
