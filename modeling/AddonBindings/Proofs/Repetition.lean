import Mathlib.Data.List.Nodup

/-!
Contract: lists with every element where it occurs first.

Owns: the list without repetitions as a part of the list, and what can be told about the
one from the other.

Does not own: any list; those are described where they are used.
-/

namespace AddonBindings.Repetition

variable {α : Type} [BEq α]

/-- Induction on a list that drops all repetitions of its first element at once. -/
theorem inductionByFirst {holds : List α → Prop} (nil : holds [])
    (cons : ∀ first rest, holds (rest.filter (!· == first)) → holds (first :: rest))
    (items : List α) : holds items := by
  induction count : items.length using Nat.strongRecOn generalizing items with
  | ind length inductionHypothesis =>
      cases items with
      | nil => exact nil
      | cons first rest =>
          refine cons first rest (inductionHypothesis _ ?_ _ rfl)
          have fewer := List.length_filter_le (!· == first) rest
          rw [List.length_cons] at count
          omega

theorem eraseDups_sublist (items : List α) : items.eraseDups.Sublist items := by
  induction items using inductionByFirst with
  | nil => exact .refl _
  | cons first rest inductionHypothesis =>
      rw [List.eraseDups_cons]
      exact (inductionHypothesis.trans List.filter_sublist).cons_cons first

variable [LawfulBEq α]

theorem nodup_eraseDups (items : List α) : items.eraseDups.Nodup := by
  induction items using inductionByFirst with
  | nil => exact .nil
  | cons first rest inductionHypothesis =>
      rw [List.eraseDups_cons, List.nodup_cons, List.mem_eraseDups, List.mem_filter]
      exact ⟨by simp, inductionHypothesis⟩

theorem filter_eraseDups (keep : α → Bool) (items : List α) :
    items.eraseDups.filter keep = (items.filter keep).eraseDups := by
  induction items using inductionByFirst with
  | nil => rfl
  | cons first rest inductionHypothesis =>
      rw [List.filter_filter] at inductionHypothesis
      rw [List.eraseDups_cons]
      by_cases kept : keep first = true
      · rw [List.filter_cons_of_pos kept, List.filter_cons_of_pos kept, List.eraseDups_cons,
          inductionHypothesis, List.filter_filter]
        simp only [Bool.and_comm]
      · -- `first` fails the test, so its repetitions are gone on both sides
        have dropped : rest.filter (fun item => keep item && !item == first) = rest.filter keep := by
          refine List.filter_congr fun item _ => ?_
          by_cases same : item = first
          · simp [same, kept]
          · simp [same]
        rw [List.filter_cons_of_neg kept, List.filter_cons_of_neg kept, inductionHypothesis, dropped]

/-- Of two lists in a row, the second one keeps what is not in the first. -/
theorem eraseDups_append_eq (items others : List α) :
    (items ++ others).eraseDups =
      items.eraseDups ++ others.eraseDups.filter fun other => !items.contains other := by
  rw [List.eraseDups_append, filter_eraseDups]
  rfl

/-- Which element is found first does not depend on repetitions. -/
theorem find?_eraseDups (test : α → Bool) (items : List α) :
    items.eraseDups.find? test = items.find? test := by
  induction items using inductionByFirst with
  | nil => rfl
  | cons first rest inductionHypothesis =>
      rw [List.eraseDups_cons, List.find?_cons, List.find?_cons, inductionHypothesis]
      cases passes : test first with
      | true => rfl
      | false =>
          -- the repetitions that are dropped fail the test as `first` does
          have sameTest : (fun item => decide ((!item == first) = true ∧ test item = true)) = test := by
            funext item
            by_cases same : item = first
            · simp [same, passes]
            · simp [same]
          rw [List.find?_filter, sameTest]

end AddonBindings.Repetition
