import AddonBindings.Proofs.Files.Effect
import AddonBindings.Proofs.Files.Selection

/-!
Contract: how the paths that a pattern selects are spelled.

Owns:
- the part below a path, as what is left after it;
- that a selected path is the searched one with more names, each of which is given in the
  pattern or is the name of an entry.

Does not own: where the selected paths lead.
-/

namespace AddonBindings.Files

open Traversal

variable {tree : FileTree} {base path found : Path} {good : String → Prop}

theorem Path.below?_eq_some_iff {names : List String} :
    base.below? path = some names ↔ path = ⟨base.anchor, base.parts ++ names⟩ := by
  obtain ⟨anchor, parts⟩ := base
  obtain ⟨other, others⟩ := path
  rw [below?, Option.ite_none_right_eq_some, FileTree.afterFront?_eq_some_iff, Path.mk.injEq,
    eq_comm (a := anchor)]

/-- The second path is the first with more names, all of which are good. -/
def Descends (good : String → Prop) (base path : Path) : Prop :=
  ∃ names, base.below? path = some names ∧ ∀ name ∈ names, good name

theorem Descends.refl (base : Path) : Descends good base base :=
  ⟨[], Path.below?_eq_some_iff.mpr (by simp), by simp⟩

theorem Descends.trans (first : Descends good base path) (second : Descends good path found) :
    Descends good base found := by
  obtain ⟨names, isBelow, areGood⟩ := first
  obtain ⟨more, isMore, moreGood⟩ := second
  rw [Path.below?_eq_some_iff] at isBelow isMore
  refine ⟨names ++ more, ?_, List.forall_mem_append.mpr ⟨areGood, moreGood⟩⟩
  rw [Path.below?_eq_some_iff, isMore, isBelow, List.append_assoc]

private theorem descends_child {name : String} (isGood : good name) :
    Descends good base (base.child name) :=
  ⟨[name], Path.below?_child base name, by simpa using isGood⟩

/-! ## What a search adds -/

section Search

variable {select : Path → Except Failure (List Path)} {paths : List Path}

private theorem good_of_mem_namesIn (entries : ∀ entry ∈ tree.entries, ∀ name ∈ entry.1, good name)
    {place : Location} {name : String} (member : name ∈ tree.namesIn place) : good name := by
  obtain ⟨⟨location, entry⟩, inEntries, named⟩ := List.mem_filterMap.mp member
  refine entries _ inEntries name ?_
  dsimp only at named ⊢
  rw [FileTree.nameIn?] at named
  split at named
  · rename_i isFront
    cases named
    rw [FileTree.afterFront?_eq_some_iff.mp isFront]
    simp
  · cases named

private theorem descends_of_selectMatching {onlyDirectories : Bool} {pattern : String}
    (entries : ∀ entry ∈ tree.entries, ∀ name ∈ entry.1, good name)
    (later : ∀ between others, select between = .ok others → found ∈ others →
      Descends good between found)
    (searched : selectMatching tree onlyDirectories pattern select base = .ok paths)
    (member : found ∈ paths) : Descends good base found := by
  rw [selectMatching_eq] at searched
  obtain ⟨place, -, among⟩ := bind_eq_ok_iff.mp (eq_ok_of_mem_untilDenied searched member)
  obtain ⟨name, isName, -, here, selected, inHere⟩ := exists_of_mem_selectAmong among member
  exact (descends_child (good_of_mem_namesIn entries isName)).trans (later _ here selected inHere)

private theorem descends_of_selectDeep
    (entries : ∀ entry ∈ tree.entries, ∀ name ∈ entry.1, good name)
    (later : ∀ between others, select between = .ok others → found ∈ others →
      Descends good between found)
    {levels : Nat} (searched : selectDeep tree select levels base = .ok paths)
    (member : found ∈ paths) : Descends good base found := by
  induction levels generalizing base paths with
  | zero => exact later base paths searched member
  | succ levels inductionHypothesis =>
      rw [selectDeep_succ] at searched
      obtain ⟨here, selected, onward⟩ := bind_eq_ok_iff.mp searched
      obtain ⟨below, inside, same⟩ := bind_eq_ok_iff.mp onward
      cases same
      rcases List.mem_append.mp member with inHere | inBelow
      · exact later base here selected inHere
      · obtain ⟨place, -, traversed⟩ := bind_eq_ok_iff.mp (eq_ok_of_mem_untilDenied inside inBelow)
        obtain ⟨lists, listed, same⟩ := bind_eq_ok_iff.mp traversed
        cases same
        obtain ⟨list, inLists, inList⟩ := List.mem_flatten.mp inBelow
        obtain ⟨name, isName, ofName⟩ := exists_of_mem_of_mapM listed inLists
        have isGood := good_of_mem_namesIn entries (List.mem_filter.mp isName).1
        exact (descends_child isGood).trans (inductionHypothesis ofName inList)

end Search

/-! ## What a pattern adds -/

private theorem descends_of_selectFrom {directoriesOnly : Bool} {parts : List GlobPart}
    {paths : List Path}
    (entries : ∀ entry ∈ tree.entries, ∀ name ∈ entry.1, good name)
    (given : ∀ name, .exact name ∈ parts → good name)
    (succeeded : selectFrom tree directoriesOnly parts base = .ok paths) (member : found ∈ paths) :
    Descends good base found := by
  induction parts generalizing base paths with
  | nil =>
      cases succeeded
      rw [List.mem_singleton.mp member]
      exact .refl _
  | cons part rest inductionHypothesis =>
      have later : ∀ between others, selectFrom tree directoriesOnly rest between = .ok others →
          found ∈ others → Descends good between found := fun between others =>
        inductionHypothesis fun name isPart => given name (List.mem_cons_of_mem part isPart)
      cases part with
      | exact name =>
          obtain ⟨there, -, onward⟩ := bind_eq_ok_iff.mp (eq_ok_of_mem_untilDenied succeeded member)
          cases there with
          | false =>
              cases onward
              cases member
          | true =>
              exact (descends_child (given name List.mem_cons_self)).trans (later _ _ onward member)
      | wildcard pattern => exact descends_of_selectMatching entries later succeeded member
      | deep =>
          obtain ⟨all, searched, same⟩ := map_eq_ok_iff.mp succeeded
          rw [← same, List.mem_eraseDups] at member
          exact descends_of_selectDeep entries later searched member

/-- A path that a pattern selects is the searched one with more names. -/
theorem descends_of_select {glob : Glob} {paths : List Path}
    (entries : ∀ entry ∈ tree.entries, ∀ name ∈ entry.1, good name)
    (given : ∀ name, .exact name ∈ glob.parts → good name)
    (succeeded : select tree base glob = .ok paths) (member : found ∈ paths) :
    Descends good base found := by
  obtain ⟨there, -, onward⟩ := bind_eq_ok_iff.mp succeeded
  cases there with
  | false =>
      cases onward
      cases member
  | true => exact descends_of_selectFrom entries given onward member

end AddonBindings.Files
