import Mathlib.Data.List.Induction
import Mathlib.Tactic.ByContra
import AddonBindings.Files.Tree

/-!
Contract: the shape of a file system.

Owns:
- well-formed file systems, in which every entry stands in a directory;
- what is inside of a location, and a file system without it;
- file systems of which one permits what the other does;
- the changes that keep a file system well-formed.

Does not own: how paths lead to locations, which is in `AddonBindings.Proofs.Files.Way`.
-/

namespace AddonBindings.Files

/-- The name of an entry: one point, two points and a slash are other steps of a way. -/
def IsEntryName (name : String) : Prop :=
  name ≠ "/" ∧ name ≠ "." ∧ name ≠ ".."

instance (name : String) : Decidable (IsEntryName name) :=
  inferInstanceAs (Decidable (_ ∧ _))

namespace FileTree

variable {tree : FileTree} {parent location : Location}

/-- Every entry has a name and stands in a directory. -/
structure WellFormed (tree : FileTree) : Prop where
  parents : ∀ parent name, (tree.contentAt? (parent ++ [name])).isSome →
    tree.contentAt? parent = some .directory
  names : ∀ parent name, (tree.contentAt? (parent ++ [name])).isSome → IsEntryName name

/-- The location is inside of `parent`, and not `parent` itself. -/
def isInside (parent location : Location) : Bool :=
  isWithin parent location && location != parent

/-- The file system without what is inside of a location. -/
def emptied (tree : FileTree) (parent : Location) : FileTree :=
  { tree with entries := tree.entries.filter fun (other, _) => !isInside parent other }

/-! ## Locations inside of another -/

theorem isWithin_iff : isWithin parent location = true ↔ ∃ rest, location = parent ++ rest := by
  rw [isWithin, List.isPrefixOf_iff_prefix]
  constructor
  · rintro ⟨rest, rfl⟩
    exact ⟨rest, rfl⟩
  · rintro ⟨rest, rfl⟩
    exact ⟨rest, rfl⟩

theorem isInside_iff :
    isInside parent location = true ↔ ∃ name rest, location = parent ++ name :: rest := by
  rw [isInside, Bool.and_eq_true, isWithin_iff, bne_iff_ne]
  constructor
  · rintro ⟨⟨rest, rfl⟩, differs⟩
    cases rest with
    | nil => exact absurd (List.append_nil parent) differs
    | cons name rest => exact ⟨name, rest, rfl⟩
  · rintro ⟨name, rest, rfl⟩
    exact ⟨⟨name :: rest, rfl⟩, by simp⟩

theorem isInside_self (parent : Location) : isInside parent parent = false := by
  simp [isInside]

theorem isInside_child (parent : Location) (name : String) :
    isInside parent (parent ++ [name]) = true :=
  isInside_iff.mpr ⟨name, [], rfl⟩

private theorem isInside_append_of_isInside {more : List String}
    (inside : isInside parent location = true) : isInside parent (location ++ more) = true := by
  obtain ⟨name, rest, rfl⟩ := isInside_iff.mp inside
  exact isInside_iff.mpr ⟨name, rest ++ more, by simp⟩

/-! ## Look-ups -/

private theorem lookup_isSome_of_mem {entries : List (Location × Entry)} {entry : Entry}
    (member : (location, entry) ∈ entries) : (entries.lookup location).isSome = true := by
  rw [Option.isSome_iff_ne_none]
  intro missing
  have differs := List.lookup_eq_none_iff.mp missing _ member
  simp at differs

theorem mem_entries_of_contentAt? {entry : Entry} (below : location ≠ [])
    (content : tree.contentAt? location = some entry) : (location, entry) ∈ tree.entries := by
  rw [contentAt?, if_neg below] at content
  obtain ⟨front, back, same, -⟩ := List.lookup_eq_some_iff.mp content
  rw [same]
  simp

private theorem contentAt?_isSome_of_mem {entry : Entry}
    (member : (location, entry) ∈ tree.entries) :
    (tree.contentAt? location).isSome = true := by
  rw [contentAt?]
  split
  · rfl
  · exact lookup_isSome_of_mem member

private theorem mem_namesIn_of_contentAt? {name : String}
    (there : (tree.contentAt? (parent ++ [name])).isSome = true) :
    name ∈ tree.namesIn parent := by
  obtain ⟨entry, content⟩ := Option.isSome_iff_exists.mp there
  have member := mem_entries_of_contentAt? (by simp) content
  exact List.mem_filterMap.mpr ⟨_, member, by simp [nameIn?]⟩

theorem afterFront?_eq_some_iff {front whole rest : List String} :
    Path.afterFront? front whole = some rest ↔ whole = front ++ rest := by
  induction front generalizing whole with
  | nil => simp [Path.afterFront?]
  | cons first front inductionHypothesis =>
      cases whole with
      | nil => simp [Path.afterFront?]
      | cons other whole =>
          rw [Path.afterFront?, Option.ite_none_right_eq_some, inductionHypothesis,
            List.cons_append, List.cons.injEq, eq_comm (a := first)]

theorem mem_namesIn_iff {name : String} :
    name ∈ tree.namesIn parent ↔ (tree.contentAt? (parent ++ [name])).isSome = true := by
  refine ⟨fun member => ?_, mem_namesIn_of_contentAt?⟩
  obtain ⟨⟨location, entry⟩, inEntries, named⟩ := List.mem_filterMap.mp member
  dsimp only at named
  rw [nameIn?] at named
  split at named
  · rename_i isName
    cases named
    rw [afterFront?_eq_some_iff] at isName
    rw [← isName]
    exact contentAt?_isSome_of_mem inEntries
  · cases named

theorem contentAt?_filter (tree : FileTree) (keep : Location → Bool) (location : Location) :
    ({ tree with
        entries := tree.entries.filter fun (other, _) => keep other } : FileTree).contentAt?
          location =
      if location = [] ∨ keep location = true then tree.contentAt? location else none := by
  rw [contentAt?, contentAt?]
  by_cases isRoot : location = []
  · rw [if_pos isRoot, if_pos isRoot, if_pos (.inl isRoot)]
  rw [if_neg isRoot, if_neg isRoot]
  by_cases kept : keep location = true
  · rw [if_pos (.inr kept), lookup_filter keep location kept]
  · rw [if_neg (by simp [isRoot, kept]), List.lookup_eq_none_iff]
    intro entry member
    have keepsEntry := (List.mem_filter.mp member).2
    rw [bne_iff_ne]
    rintro rfl
    exact kept keepsEntry

theorem contentAt?_emptied (tree : FileTree) (parent location : Location) :
    (tree.emptied parent).contentAt? location =
      if isInside parent location then none else tree.contentAt? location := by
  rw [emptied, contentAt?_filter tree (fun other => !isInside parent other)]
  by_cases inside : isInside parent location = true
  · have below : location ≠ [] := by
      rintro rfl
      obtain ⟨name, rest, same⟩ := isInside_iff.mp inside
      simp at same
    rw [if_pos inside, if_neg (by simp [below, inside])]
  · rw [if_neg inside, if_pos (.inr (by simpa using inside))]

private theorem filter_emptied (tree : FileTree) (parent : Location) (keep : Location → Bool)
    (keeps : ∀ location, isInside parent location = false → keep location = true) :
    ({ tree with
        entries := tree.entries.filter fun (other, _) => keep other } : FileTree).emptied parent =
      tree.emptied parent := by
  simp only [emptied, List.filter_filter]
  congr 1
  apply List.filter_congr
  rintro ⟨other, entry⟩ -
  cases inside : isInside parent other with
  | true => simp
  | false => simp [keeps other inside]

theorem emptied_remove (inside : isInside parent location = true) :
    (tree.remove location).emptied parent = tree.emptied parent := by
  refine filter_emptied tree parent (fun other => !isWithin location other) fun other outside => ?_
  rw [Bool.not_eq_true']
  by_contra within_
  rw [Bool.not_eq_false, isWithin_iff] at within_
  obtain ⟨rest, rfl⟩ := within_
  rw [isInside_append_of_isInside inside] at outside
  cases outside

theorem entries_emptied_place (inside : isInside parent location = true) (entry : Entry) :
    ((tree.place location entry).emptied parent).entries = (tree.emptied parent).entries := by
  have kept := filter_emptied tree parent (fun other => other != location)
    fun other outside => by
      rw [bne_iff_ne]
      rintro rfl
      rw [inside] at outside
      cases outside
  rw [← kept]
  simp [emptied, place, overwrite, inside]

theorem emptied_emptied (tree : FileTree) (parent : Location) :
    (tree.emptied parent).emptied parent = tree.emptied parent :=
  filter_emptied tree parent (fun other => !isInside parent other) fun _ outside => by simp [outside]

/-! ## What is permitted -/

private theorem isSearchable_iff : tree.isSearchable location = true ↔ location ∉ tree.unsearchable
    := by
  simp [isSearchable]

private theorem isReadable_iff : tree.isReadable location = true ↔ location ∉ tree.unreadable := by
  simp [isReadable]

/-- What may be searched and read in the file system `before` may be in `after`. -/
structure Permits (before after : FileTree) : Prop where
  searchable : ∀ location, before.isSearchable location = true → after.isSearchable location = true
  readable : ∀ location, before.isReadable location = true → after.isReadable location = true

namespace Permits

variable {before middle after : FileTree}

theorem of_eq (searchable : before.unsearchable = after.unsearchable)
    (readable : before.unreadable = after.unreadable) : Permits before after := by
  refine ⟨fun location => ?_, fun location => ?_⟩
  · rw [isSearchable, isSearchable, searchable]
    exact id
  · rw [isReadable, isReadable, readable]
    exact id

theorem trans (first : Permits before middle) (second : Permits middle after) :
    Permits before after :=
  ⟨fun location permitted => second.searchable location (first.searchable location permitted),
    fun location permitted => second.readable location (first.readable location permitted)⟩

/-- A new entry takes no permission away. -/
theorem place (tree : FileTree) (location : Location) (entry : Entry) :
    Permits tree (tree.place location entry) := by
  refine ⟨fun other permitted => ?_, fun other permitted => ?_⟩
  · rw [isSearchable_iff] at permitted ⊢
    exact fun member => permitted (List.mem_filter.mp member).1
  · rw [isReadable_iff] at permitted ⊢
    exact fun member => permitted (List.mem_filter.mp member).1

end Permits

/-! ## Checking the shape -/

/-- A well-formed file system is one in which each listed entry has a name and stands in a
directory. -/
theorem wellFormed_iff :
    tree.WellFormed ↔ ∀ entry ∈ tree.entries, entry.1 ≠ [] →
      tree.contentAt? entry.1.dropLast = some .directory ∧ IsEntryName (entry.1.getLastD "") := by
  constructor
  · rintro wellFormed ⟨location, entry⟩ member filled
    have there := contentAt?_isSome_of_mem member
    cases location using List.reverseRecOn with
    | nil => exact absurd rfl filled
    | append_singleton front name =>
        rw [List.dropLast_concat, List.getLastD_concat]
        exact ⟨wellFormed.parents front name there, wellFormed.names front name there⟩
  · intro checked
    have listed (front : Location) (name : String)
        (there : (tree.contentAt? (front ++ [name])).isSome = true) :
        tree.contentAt? front = some .directory ∧ IsEntryName name := by
      obtain ⟨entry, content⟩ := Option.isSome_iff_exists.mp there
      have result := checked _ (mem_entries_of_contentAt? (by simp) content) (by simp)
      rwa [List.dropLast_concat, List.getLastD_concat] at result
    exact ⟨fun front name there => (listed front name there).1,
      fun front name there => (listed front name there).2⟩

instance (tree : FileTree) : Decidable tree.WellFormed :=
  decidable_of_iff' _ wellFormed_iff

/-! ## Removing everything in a directory -/

private theorem entries_foldl_remove (names : List String) (tree : FileTree) (parent : Location) :
    names.foldl (fun tree name => tree.remove (parent ++ [name])) tree =
      { tree with
        entries := tree.entries.filter fun (other, _) =>
          names.all fun name => !isWithin (parent ++ [name]) other } := by
  induction names generalizing tree with
  | nil =>
      have all : (tree.entries.filter fun _ => true) = tree.entries :=
        List.filter_eq_self.mpr fun _ _ => rfl
      simp only [List.foldl_nil, List.all_nil, all]
  | cons name names inductionHypothesis =>
      rw [List.foldl_cons, inductionHypothesis, remove]
      simp only [List.filter_filter, List.all_cons]
      congr 2
      funext entry
      rw [Bool.and_comm]

namespace WellFormed

/-- What stands above an entry is a directory. -/
theorem directory_of_append (wellFormed : tree.WellFormed) {front back : Location}
    (filled : back ≠ []) (there : (tree.contentAt? (front ++ back)).isSome = true) :
    tree.contentAt? front = some .directory := by
  induction back using List.reverseRecOn with
  | nil => exact absurd rfl filled
  | append_singleton back name inductionHypothesis =>
      rw [← List.append_assoc] at there
      have above := wellFormed.parents _ _ there
      cases back with
      | nil => rwa [List.append_nil] at above
      | cons next rest => exact inductionHypothesis (List.cons_ne_nil _ _) (by simp [above])

/-- Every name on the way to an entry is the name of an entry. -/
theorem isEntryName_of_mem (wellFormed : tree.WellFormed) {entry : Location × Entry}
    (member : entry ∈ tree.entries) {name : String} (inLocation : name ∈ entry.1) :
    IsEntryName name := by
  have there := contentAt?_isSome_of_mem member
  obtain ⟨front, back, split⟩ := List.append_of_mem inLocation
  rw [split] at there
  refine wellFormed.names front name ?_
  cases back with
  | nil => exact there
  | cons next rest =>
      rw [List.append_cons] at there
      rw [wellFormed.directory_of_append (List.cons_ne_nil next rest) there]
      rfl

theorem dropLast (wellFormed : tree.WellFormed)
    (there : tree.contentAt? location = some .directory) :
    tree.contentAt? location.dropLast = some .directory := by
  cases location using List.reverseRecOn with
  | nil => rfl
  | append_singleton front name =>
      rw [List.dropLast_concat]
      exact wellFormed.parents front name (by simp [there])

/-- Removing the names in a directory, one after the other, empties it. -/
theorem foldl_remove_eq_emptied (wellFormed : tree.WellFormed) {names : List String}
    (listed : ∀ name, name ∈ names ↔ name ∈ tree.namesIn parent) :
    names.foldl (fun tree name => tree.remove (parent ++ [name])) tree = tree.emptied parent := by
  rw [entries_foldl_remove, emptied]
  congr 1
  apply List.filter_congr
  rintro ⟨location, entry⟩ member
  dsimp only
  rw [Bool.eq_iff_iff, List.all_eq_true]
  constructor
  · intro outside
    by_contra inside
    rw [Bool.not_eq_true, Bool.not_eq_false', isInside_iff] at inside
    obtain ⟨name, rest, rfl⟩ := inside
    have split : parent ++ name :: rest = (parent ++ [name]) ++ rest := by simp
    have isWithinName : isWithin (parent ++ [name]) (parent ++ name :: rest) = true :=
      isWithin_iff.mpr ⟨rest, split⟩
    have there : (tree.contentAt? (parent ++ [name])).isSome = true := by
      have inTree := contentAt?_isSome_of_mem member
      rw [split] at inTree
      cases rest with
      | nil => rwa [List.append_nil] at inTree
      | cons next more =>
          rw [wellFormed.directory_of_append (List.cons_ne_nil _ _) inTree]
          rfl
    have kept := outside name ((listed name).mpr (mem_namesIn_of_contentAt? there))
    simp [isWithinName] at kept
  · intro outside name _
    rw [Bool.not_eq_true'] at outside ⊢
    by_contra within_
    rw [Bool.not_eq_false, isWithin_iff] at within_
    obtain ⟨rest, rfl⟩ := within_
    have inside : isInside parent (parent ++ [name] ++ rest) = true :=
      isInside_append_of_isInside (isInside_child parent name)
    rw [inside] at outside
    cases outside

/-! ## Changes that keep the shape -/

theorem emptied (wellFormed : tree.WellFormed) (parent : Location) :
    (tree.emptied parent).WellFormed := by
  have inTree {location : Location} (there : ((tree.emptied parent).contentAt? location).isSome = true) :
      isInside parent location = false ∧ (tree.contentAt? location).isSome = true := by
    rw [contentAt?_emptied] at there
    split at there
    · cases there
    · rename_i outside
      exact ⟨by simpa using outside, there⟩
  refine ⟨fun front name there => ?_, fun front name there => ?_⟩
  · obtain ⟨outside, there⟩ := inTree there
    have frontOutside : isInside parent front = false := by
      by_contra inside
      rw [isInside_append_of_isInside (by simpa using inside)] at outside
      cases outside
    rw [contentAt?_emptied, frontOutside]
    exact wellFormed.parents front name there
  · exact wellFormed.names front name (inTree there).2

/-- An entry placed under a free name in a directory. -/
theorem place (wellFormed : tree.WellFormed) {name : String} (isName : IsEntryName name)
    (directory : tree.contentAt? parent = some .directory)
    (free : tree.contentAt? (parent ++ [name]) = none) (entry : Entry) :
    (tree.place (parent ++ [name]) entry).WellFormed := by
  refine ⟨fun front other there => ?_, fun front other there => ?_⟩
  · by_cases isPlace : front ++ [other] = parent ++ [name]
    · obtain ⟨rfl, -⟩ := List.append_inj' isPlace rfl
      rw [contentAt?_place_of_ne tree entry (by simp)]
      exact directory
    · rw [contentAt?_place_of_ne tree entry isPlace] at there
      have above := wellFormed.parents front other there
      have differs : front ≠ parent ++ [name] := by
        rintro rfl
        rw [free] at above
        cases above
      rwa [contentAt?_place_of_ne tree entry differs]
  · by_cases isPlace : front ++ [other] = parent ++ [name]
    · obtain ⟨-, same⟩ := List.append_inj' isPlace rfl
      rw [List.singleton_inj.mp same]
      exact isName
    · rw [contentAt?_place_of_ne tree entry isPlace] at there
      exact wellFormed.names front other there

end WellFormed

end FileTree

end AddonBindings.Files
