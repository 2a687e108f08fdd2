import Mathlib.Data.List.Perm.Basic
import Mathlib.Data.Set.List
import AddonBindings.Proofs.Files.Effect
import AddonBindings.Proofs.Files.PathOrder
import AddonBindings.Proofs.Output.FileNames

/-!
Contract: the exact effect of writing an addon.

Owns:
- removing everything in a directory, and writing a file into it;
- the files after an addon was written: directories may have been made, and the output
  directory holds the two files in place of everything else;
- that writing the same addon again succeeds and changes nothing.

Does not own: which addon a run writes, which is in `AddonBindings.Proofs.Run.History`.
-/

namespace AddonBindings.Output

open AddonBindings.Files
open AddonBindings.Files.FileTree

variable {tree base made changed : FileTree} {directory : Path} {place : Location}
  {addon name : String} {bindings : Bindings} {bytes : List UInt8}

/-! ## Emptying a directory -/

/-- Entries inside of a directory are removed, one after the other. -/
theorem removeAll_of_ok {names : List String} (areNames : ∀ name ∈ names, IsEntryName name)
    (leads : LeadsTo base directory place) (isPart : tree.IsPartOf base)
    (succeeded : (removeAll (names.map directory.child)).run.run tree = (.ok (), changed)) :
    changed = names.foldl (fun tree name => tree.remove (place ++ [name])) tree := by
  induction names generalizing tree with
  | nil => exact (Change.pure_eq_ok_iff.mp succeeded).2.symm
  | cons name names inductionHypothesis =>
      rw [List.map_cons, removeAll] at succeeded
      obtain ⟨seen, same, observed, removing⟩ := Change.bind_eq_ok_iff.mp succeeded
      rw [run_observe] at observed
      obtain ⟨-, rfl⟩ := Prod.ext_iff.mp observed
      obtain ⟨⟨⟩, between, removed, others⟩ := Change.bind_eq_ok_iff.mp removing
      obtain ⟨location, entry, located, rfl⟩ := removeEntry_eq_ok_iff.mp removed
      obtain ⟨here, leadsHere⟩ := leadsTo_of_locate_child located
      have same : here = place := (isPart.leadsTo leadsHere).unique leads
      subst same
      have isName := areNames name List.mem_cons_self
      have atName := ((locate_child_iff isName (by simp) leadsHere).mp located).2.2.2
      have isLocation : location = here ++ [name] := by
        rw [Destination.atName] at atName
        split at atName
        · cases atName
        · cases atName
          rfl
      rw [isLocation] at others
      rw [List.foldl_cons]
      exact inductionHypothesis (fun other member => areNames other (List.mem_cons_of_mem _ member))
        ((IsPartOf.remove tree _).trans isPart) others

/-- A name in a directory that the system takes. -/
structure Fits (directory : Path) (name : String) : Prop where
  passable : (directory.child name).IsPassable
  short : name.utf8ByteSize ≤ nameLimit

/-- A file or a directory stands in the directory under the name. -/
structure IsSeen (tree : FileTree) (place : Location) (name : String) : Prop where
  there : (tree.contentAt? (place ++ [name])).isSome = true
  unlinked : ∀ target, tree.contentAt? (place ++ [name]) ≠ some (.link target)

/-- The path to what is seen leads there, through links and otherwise. -/
private theorem IsSeen.exists_located {name : String} (seen : IsSeen tree place name)
    (isName : IsEntryName name) (fits : Fits directory name)
    (searchable : tree.isSearchable place = true) (leads : LeadsTo tree directory place) :
    ∃ entry, ∀ follow,
      locate tree follow (directory.child name) = .ok (.found (place ++ [name]) entry) := by
  obtain ⟨entry, content⟩ := Option.isSome_iff_exists.mp seen.there
  refine ⟨entry, fun follow => ?_⟩
  rw [locate_child_iff isName (fun _ => seen.unlinked) leads]
  exact ⟨searchable, fits.passable, fits.short, by rw [Destination.atName, content]⟩

/-- What is seen under one name is still seen after another one was removed. -/
private theorem IsSeen.remove {name other : String} (seen : IsSeen tree place other)
    (differs : name ≠ other) : IsSeen (tree.remove (place ++ [name])) place other := by
  have kept : (tree.remove (place ++ [name])).contentAt? (place ++ [other]) =
      tree.contentAt? (place ++ [other]) := by
    apply contentAt?_remove_of_outside
    rw [Bool.eq_false_iff, ne_eq, isWithin_iff]
    rintro ⟨rest, same⟩
    rw [List.append_assoc, List.append_cancel_left_eq] at same
    cases same
    exact differs rfl
  exact ⟨by rw [kept]; exact seen.there, by rw [kept]; exact seen.unlinked⟩

/-- Removal succeeds for files and directories that are there, if the way to the directory
does not lead through anything inside of it. -/
theorem run_removeAll {names : List String} (areNames : ∀ name ∈ names, IsEntryName name)
    (fit : ∀ name ∈ names, Fits directory name) (single : names.Nodup)
    (seen : ∀ name ∈ names, IsSeen tree place name) (searchable : tree.isSearchable place = true)
    (leads : LeadsTo (tree.emptied place) directory place) :
    (removeAll (names.map directory.child)).run.run tree =
      (.ok (), names.foldl (fun tree name => tree.remove (place ++ [name])) tree) := by
  induction names generalizing tree with
  | nil => rfl
  | cons name names inductionHypothesis =>
      rw [List.nodup_cons] at single
      rw [List.forall_mem_cons] at areNames fit seen
      obtain ⟨entry, located⟩ := seen.1.exists_located areNames.1 fit.1 searchable
        ((IsPartOf.emptied tree place).leadsTo leads)
      have observed : isDirectory tree (directory.child name) = .ok (some entry == some .directory) := by
        rw [isDirectory, entryAt, located true]
        rfl
      have removed := removeEntry_eq_ok_iff.mpr ⟨_, _, located false, rfl⟩
      rw [List.map_cons, removeAll, run_bind_observe, observed]
      dsimp only
      rw [List.foldl_cons, Change.bind_eq_ok_iff]
      refine ⟨(), _, removed,
        inductionHypothesis areNames.2 fit.2 single.2 (fun other member => ?_) searchable ?_⟩
      · exact (seen.2 other member).remove fun same => single.1 (same ▸ member)
      · rwa [emptied_remove (isInside_child place name)]

/-- The children of a directory in path order are those of its names in some order. -/
theorem sort_map_child (directory : Path) (names : List String) :
    ∃ ordered : List String, ordered.Perm names ∧
      Sorting.sort Path.le (names.map directory.child) = ordered.map directory.child := by
  have reordered : (Sorting.sort Path.le (names.map directory.child)).Perm
      (names.map directory.child) := by
    rw [Sorting.sort_eq_insertionSort]
    exact List.perm_insertionSort _ _
  have areChildren : Sorting.sort Path.le (names.map directory.child) ∈
      Set.range (List.map directory.child) := by
    rw [Set.range_list_map]
    intro path member
    obtain ⟨name, -, same⟩ := List.mem_map.mp (reordered.mem_iff.mp member)
    exact ⟨name, same⟩
  obtain ⟨ordered, same⟩ := areChildren
  refine ⟨ordered, ?_, same.symm⟩
  have injective : Function.Injective directory.child := by
    intro left right isSame
    simpa [Path.child] using isSame
  rwa [← List.map_perm_map_iff injective, same]

private theorem clear_of_ok (wellFormed : tree.WellFormed)
    (succeeded : (clear directory).run.run tree = (.ok (), changed)) :
    ∃ place, LeadsTo tree directory place ∧ tree.isReadable place = true ∧
      changed = tree.emptied place := by
  obtain ⟨names, between, read, removed⟩ := Change.bind_eq_ok_iff.mp succeeded
  rw [run_observe] at read
  obtain ⟨isRead, rfl⟩ := Prod.ext_iff.mp read
  obtain ⟨place, leads, readable, rfl⟩ := readDirectory_eq_ok_iff.mp isRead
  obtain ⟨ordered, reordered, same⟩ := sort_map_child directory (tree.namesIn place)
  rw [same] at removed
  refine ⟨place, leads, readable, ?_⟩
  have areNames (name : String) (member : name ∈ ordered) : IsEntryName name :=
    wellFormed.names place name (mem_namesIn_iff.mp (reordered.mem_iff.mp member))
  rw [removeAll_of_ok areNames leads (.refl tree) removed]
  exact wellFormed.foldl_remove_eq_emptied fun _ => reordered.mem_iff

private theorem run_clear (wellFormed : tree.WellFormed)
    (fit : ∀ name ∈ tree.namesIn place, Fits directory name)
    (single : (tree.namesIn place).Nodup)
    (unlinked : ∀ name ∈ tree.namesIn place, ∀ target,
      tree.contentAt? (place ++ [name]) ≠ some (.link target))
    (searchable : tree.isSearchable place = true) (readable : tree.isReadable place = true)
    (leads : LeadsTo (tree.emptied place) directory place) :
    (clear directory).run.run tree = (.ok (), tree.emptied place) := by
  have leadsHere := (IsPartOf.emptied tree place).leadsTo leads
  have isRead := readDirectory_eq_ok_iff.mpr ⟨place, leadsHere, readable, rfl⟩
  obtain ⟨ordered, reordered, same⟩ := sort_map_child directory (tree.namesIn place)
  have listed (name : String) (member : name ∈ ordered) := reordered.mem_iff.mp member
  have there (name : String) (member : name ∈ ordered) :=
    mem_namesIn_iff.mp (listed name member)
  rw [clear, run_bind_observe, isRead]
  dsimp only
  rw [same, run_removeAll (fun name member => wellFormed.names place name (there name member))
    (fun name member => fit name (listed name member)) (reordered.nodup_iff.mpr single)
    (fun name member => ⟨there name member, unlinked name (listed name member)⟩) searchable leads,
    wellFormed.foldl_remove_eq_emptied fun _ => reordered.mem_iff]

/-! ## Writing a file into a directory -/

private theorem leadsTo_of_writeFile_ok
    (succeeded : (writeFile (directory.child name) bytes).run.run tree = (.ok (), changed)) :
    ∃ place, LeadsTo tree directory place := by
  obtain ⟨destination, located⟩ := locate_of_writeFile_ok succeeded
  exact leadsTo_of_locate_child located

/-- A file under a free name in a directory is placed there and nowhere else. -/
theorem writeFile_child_eq_ok_iff (isName : IsEntryName name) (leads : LeadsTo tree directory place)
    (free : tree.contentAt? (place ++ [name]) = none) :
    (writeFile (directory.child name) bytes).run.run tree = (.ok (), changed) ↔
      tree.isSearchable place = true ∧ Fits directory name ∧
        changed = tree.place (place ++ [name]) (.file bytes) := by
  have unlinked : true = true → ∀ target,
      tree.contentAt? (place ++ [name]) ≠ some (.link target) := by
    intro _ target
    rw [free]
    simp
  have vacant : Destination.atName tree place name = .vacant (place ++ [name]) := by
    rw [Destination.atName, free]
  constructor
  · intro succeeded
    obtain ⟨destination, located⟩ := locate_of_writeFile_ok succeeded
    obtain ⟨searchable, passable, short, rfl⟩ := (locate_child_iff isName unlinked leads).mp located
    rw [vacant] at located
    rw [writeFile_of_vacant located] at succeeded
    cases succeeded
    exact ⟨searchable, ⟨passable, short⟩, rfl⟩
  · rintro ⟨searchable, ⟨passable, short⟩, rfl⟩
    apply writeFile_of_vacant
    rw [locate_child_iff isName unlinked leads]
    exact ⟨searchable, passable, short, vacant.symm⟩

/-! ## A directory that holds an addon -/

/-- The file system with the two files of an addon in place of everything else in a
directory. -/
def filled (tree : FileTree) (place : Location) (addon : String) (bindings : Bindings) : FileTree :=
  ((tree.emptied place).place (place ++ [nativeName addon])
      (.file (Text.encodeUtf8 bindings.native))).place
    (place ++ [declarationName addon]) (.file (Text.encodeUtf8 bindings.declaration))

/-- What stands below a directory that holds the two files of an addon. -/
def contentBelow? (addon : String) (bindings : Bindings) (names : List String) : Option Entry :=
  if names = [nativeName addon] then some (.file (Text.encodeUtf8 bindings.native))
  else if names = [declarationName addon] then
    some (.file (Text.encodeUtf8 bindings.declaration))
  else none

theorem contentAt?_filled_of_outside {location : Location}
    (outside : isInside place location = false) :
    (filled tree place addon bindings).contentAt? location = tree.contentAt? location := by
  have differs (name : String) : location ≠ place ++ [name] := by
    rintro rfl
    rw [isInside_child] at outside
    cases outside
  rw [filled, contentAt?_place_of_ne _ _ (differs _), contentAt?_place_of_ne _ _ (differs _),
    contentAt?_emptied, outside]
  rfl

theorem contentAt?_filled_below (first : String) (rest : List String) :
    (filled tree place addon bindings).contentAt? (place ++ first :: rest) =
      contentBelow? addon bindings (first :: rest) := by
  have isPlace (name : String) :
      place ++ first :: rest = place ++ [name] ↔ first :: rest = [name] :=
    List.append_right_inj place
  rw [filled, contentBelow?]
  by_cases isNative : first :: rest = [nativeName addon]
  · have differs : place ++ [nativeName addon] ≠ place ++ [declarationName addon] := by
      simp [nativeName_ne_declarationName]
    rw [if_pos isNative, isNative, contentAt?_place_of_ne _ _ differs,
      contentAt?_place_self _ _ (by simp)]
  rw [if_neg isNative]
  by_cases isDeclaration : first :: rest = [declarationName addon]
  · rw [if_pos isDeclaration, isDeclaration, contentAt?_place_self _ _ (by simp)]
  · rw [if_neg isDeclaration,
      contentAt?_place_of_ne _ _ (mt (isPlace _).mp isDeclaration),
      contentAt?_place_of_ne _ _ (mt (isPlace _).mp isNative), contentAt?_emptied,
      if_pos (isInside_iff.mpr ⟨first, rest, rfl⟩)]

private theorem entries_emptied_filled :
    ((filled tree place addon bindings).emptied place).entries = (tree.emptied place).entries := by
  rw [filled, entries_emptied_place (isInside_child place _),
    entries_emptied_place (isInside_child place _), emptied_emptied]

/-- The two files take no permission away. -/
theorem permits_filled : tree.Permits (filled tree place addon bindings) := by
  have removed : tree.Permits (tree.emptied place) := .of_eq rfl rfl
  exact (removed.trans (.place _ _ _)).trans (.place _ _ _)

theorem isPartOf_emptied_filled :
    (tree.emptied place).IsPartOf ((filled tree place addon bindings).emptied place) where
  working := rfl
  permits := by
    have removed : (tree.emptied place).Permits tree := .of_eq rfl rfl
    exact (removed.trans permits_filled).trans (.of_eq rfl rfl)
  kept location := .inl (by rw [contentAt?, contentAt?, entries_emptied_filled])

/-- Filling a directory again changes nothing. -/
theorem filled_filled :
    filled (filled tree place addon bindings) place addon bindings =
      filled tree place addon bindings := by
  have entries : ((filled tree place addon bindings).emptied place).entries =
      (tree.emptied place).entries := entries_emptied_filled
  have again (locations : List Location) (first second : Location) :
      (((locations.filter (· != first)).filter (· != second)).filter (· != first)).filter
          (· != second) =
        (locations.filter (· != first)).filter (· != second) := by
    simp only [List.filter_filter]
    refine List.filter_congr fun location _ => ?_
    cases location != first <;> cases location != second <;> rfl
  rw [filled, FileTree.place, FileTree.place, FileTree.overwrite, FileTree.overwrite, entries]
  exact congrArg₂ (FileTree.mk _ _) (again _ _ _) (again _ _ _)

private theorem wellFormed_filled (wellFormed : tree.WellFormed)
    (accepted : isAddonName addon.toList = true)
    (isDirectory : tree.contentAt? place = some .directory) :
    (filled tree place addon bindings).WellFormed := by
  have free (name : String) : (tree.emptied place).contentAt? (place ++ [name]) = none := by
    rw [contentAt?_emptied, if_pos (isInside_child place name)]
  have stays : (tree.emptied place).contentAt? place = some .directory := by
    rw [contentAt?_emptied, isInside_self]
    exact isDirectory
  refine ((wellFormed.emptied place).place (isEntryName_nativeName accepted) stays
    (free _) _).place (isEntryName_declarationName accepted) ?_ ?_ _
  · rw [contentAt?_place_of_ne _ _ (by simp)]
    exact stays
  · rw [contentAt?_place_of_ne _ _ (by simp [(nativeName_ne_declarationName addon).symm])]
    exact free _

theorem namesIn_filled :
    (filled tree place addon bindings).namesIn place = [declarationName addon, nativeName addon] := by
  have own (name : String) : nameIn? place (place ++ [name]) = some name := by
    simp [nameIn?]
  have others (location : Location) (entry : Entry)
      (member : (location, entry) ∈ (tree.emptied place).entries) :
      nameIn? place location = none := by
    have outside := (List.mem_filter.mp member).2
    dsimp only [nameIn?]
    split
    · rename_i isName
      rw [afterFront?_eq_some_iff] at isName
      simp [isName, isInside_child] at outside
    · rfl
  have differs : (place ++ [nativeName addon] != place ++ [declarationName addon]) = true := by
    simp [nativeName_ne_declarationName]
  simp only [namesIn, filled, FileTree.place, FileTree.overwrite, List.filter_cons, differs, if_true,
    List.filterMap_cons, own, List.cons.injEq, true_and, List.filter_filter,
    List.filterMap_eq_nil_iff]
  rintro ⟨location, entry⟩ member
  exact others location entry (List.mem_of_mem_filter member)

/-! ## Writing an addon -/

/-- Writing an addon has changed the files from `tree` to `changed`: directories were
made, which gives `made`, and in it the directory at `place` has got the addon as its only
content. -/
structure Writing (directory : Path) (addon : String) (bindings : Bindings)
    (tree changed : FileTree) (place : Location) (made : FileTree) : Prop where
  grown : Grown tree made
  isDirectory : made.contentAt? place = some .directory
  searchable : made.isSearchable place = true
  readable : made.isReadable place = true
  leads : LeadsTo (made.emptied place) directory place
  nativeFits : Fits directory (nativeName addon)
  declarationFits : Fits directory (declarationName addon)
  isFilled : changed = filled made place addon bindings

def writeFiles (directory : Path) (addon : String) (bindings : Bindings) : Change (List Path) := do
  writeFile (nativePath directory addon) (Text.encodeUtf8 bindings.native)
  writeFile (declarationPath directory addon) (Text.encodeUtf8 bindings.declaration)
  return addonPaths directory addon

private theorem write_eq (directory : Path) (addon : String) (bindings : Bindings) :
    write directory addon bindings = (do
      ensureDirectories directory
      clear directory
      writeFiles directory addon bindings) := rfl

private theorem writeFiles_eq_ok_iff {written : List Path}
    (accepted : isAddonName addon.toList = true)
    (leads : LeadsTo (tree.emptied place) directory place) :
    (writeFiles directory addon bindings).run.run (tree.emptied place) = (.ok written, changed) ↔
      tree.isSearchable place = true ∧ Fits directory (nativeName addon) ∧
        Fits directory (declarationName addon) ∧ written = addonPaths directory addon ∧
          changed = filled tree place addon bindings := by
  have free : (tree.emptied place).contentAt? (place ++ [nativeName addon]) = none := by
    rw [contentAt?_emptied, if_pos (isInside_child place _)]
  have stillFree : ((tree.emptied place).place (place ++ [nativeName addon])
      (.file (Text.encodeUtf8 bindings.native))).contentAt? (place ++ [declarationName addon]) =
        none := by
    rw [contentAt?_place_of_ne _ _ (by simp [(nativeName_ne_declarationName addon).symm]),
      contentAt?_emptied, if_pos (isInside_child place _)]
  have leadsNative :=
    (IsPartOf.placed free (.file (Text.encodeUtf8 bindings.native))).leadsTo leads
  have isNativeName := isEntryName_nativeName accepted
  have isDeclarationName := isEntryName_declarationName accepted
  rw [writeFiles, nativePath_eq accepted, declarationPath_eq accepted]
  constructor
  · intro succeeded
    obtain ⟨⟨⟩, native, isNative, afterNative⟩ := Change.bind_eq_ok_iff.mp succeeded
    obtain ⟨⟨⟩, declaration, isDeclaration, answered⟩ := Change.bind_eq_ok_iff.mp afterNative
    obtain ⟨searchable, nativeFits, rfl⟩ :=
      (writeFile_child_eq_ok_iff isNativeName leads free).mp isNative
    obtain ⟨-, declarationFits, rfl⟩ :=
      (writeFile_child_eq_ok_iff isDeclarationName leadsNative stillFree).mp isDeclaration
    obtain ⟨rfl, rfl⟩ := Change.pure_eq_ok_iff.mp answered
    exact ⟨searchable, nativeFits, declarationFits, rfl, rfl⟩
  · rintro ⟨searchable, nativeFits, declarationFits, rfl, rfl⟩
    have stillSearchable := (Permits.place (tree.emptied place) (place ++ [nativeName addon])
      (.file (Text.encodeUtf8 bindings.native))).searchable place searchable
    rw [Change.bind_eq_ok_iff]
    refine ⟨(), _, (writeFile_child_eq_ok_iff isNativeName leads free).mpr
      ⟨searchable, nativeFits, rfl⟩, ?_⟩
    rw [Change.bind_eq_ok_iff]
    exact ⟨(), _, (writeFile_child_eq_ok_iff isDeclarationName leadsNative stillFree).mpr
      ⟨stillSearchable, declarationFits, rfl⟩, rfl⟩

/-- What a successful writing has done. -/
theorem writing_of_ok {written : List Path} (wellFormed : tree.WellFormed)
    (working : tree.contentAt? tree.working = some .directory)
    (accepted : isAddonName addon.toList = true)
    (succeeded : (write directory addon bindings).run.run tree = (.ok written, changed)) :
    ∃ place made, Writing directory addon bindings tree changed place made ∧
      (ensureDirectories directory).run.run tree = (.ok (), made) := by
  rw [write_eq] at succeeded
  obtain ⟨⟨⟩, made, ensured, afterMade⟩ := Change.bind_eq_ok_iff.mp succeeded
  obtain ⟨⟨⟩, cleared, isCleared, filling⟩ := Change.bind_eq_ok_iff.mp afterMade
  have grown := Change.OnlyGrows.ensureDirectories directory tree wellFormed working
  rw [ensured] at grown
  obtain ⟨place, leadsMade, readable, rfl⟩ := clear_of_ok grown.wellFormed isCleared
  have isDirectory : made.contentAt? place = some .directory :=
    stands_of_locate grown.wellFormed
      (by rw [grown.working]; exact grown.keeps_directory working) leadsMade
  -- the first file could be written, so the way to the directory is still there
  have leads : LeadsTo (made.emptied place) directory place := by
    obtain ⟨⟨⟩, native, isNative, -⟩ := Change.bind_eq_ok_iff.mp filling
    rw [nativePath_eq accepted] at isNative
    obtain ⟨here, leadsHere⟩ := leadsTo_of_writeFile_ok isNative
    have same : here = place := ((IsPartOf.emptied made place).leadsTo leadsHere).unique leadsMade
    rwa [same] at leadsHere
  obtain ⟨searchable, nativeFits, declarationFits, -, isFilled⟩ :=
    (writeFiles_eq_ok_iff accepted leads).mp filling
  exact ⟨place, made, ⟨grown, isDirectory, searchable, readable, leads, nativeFits, declarationFits,
    isFilled⟩, ensured⟩

namespace Writing

variable (writing : Writing directory addon bindings tree changed place made)
include writing

theorem wellFormed (accepted : isAddonName addon.toList = true) : changed.WellFormed := by
  rw [writing.isFilled]
  exact wellFormed_filled writing.grown.wellFormed accepted writing.isDirectory

theorem leadsTo_emptied : LeadsTo (changed.emptied place) directory place := by
  rw [writing.isFilled]
  exact isPartOf_emptied_filled.leadsTo writing.leads

theorem leadsTo_changed : LeadsTo changed directory place :=
  (IsPartOf.emptied changed place).leadsTo writing.leadsTo_emptied

theorem permits : tree.Permits changed := by
  rw [writing.isFilled]
  exact writing.grown.permits.trans permits_filled

/-- Outside of the output directory, everything is left as it was. -/
theorem kept_outside {location : Location} (outside : isInside place location = false) :
    tree.contentAt? location = changed.contentAt? location ∨ tree.contentAt? location = none := by
  rw [writing.isFilled, contentAt?_filled_of_outside outside]
  exact writing.grown.isPartOf.kept location

/-- A file reads as before, if its way does not lead through the inside of the output
directory before and after. -/
theorem readFile_of_ok {path : Path}
    (outside : ∀ station ∈ stations tree true path, station ∈ stations changed true path →
      isInside place station = false)
    (isRead : readFile tree path = .ok bytes) : readFile changed path = .ok bytes := by
  have same : changed.startOf path = tree.startOf path := by
    rw [FileTree.startOf, FileTree.startOf, writing.isFilled]
    exact congrArg _ writing.grown.working
  obtain ⟨location, located, readable⟩ := readFile_eq_ok_iff.mp isRead
  obtain ⟨passable, way⟩ := locate_eq_ok_iff.mp located
  refine readFile_eq_ok_iff.mpr ⟨location, locate_eq_ok_iff.mpr ⟨passable, ?_⟩,
    writing.permits.readable location readable⟩
  rw [same]
  refine way.transfer writing.permits fun station before after => ?_
  rw [stations, stations, same] at outside
  exact writing.kept_outside (outside station before after)

/-- A way to an entry outside of the output directory does not lead through the inside of
it, where only the two files stand. -/
theorem outside_of_locate {path : Path} {location : Location} {entry : Entry}
    (located : locate changed true path = .ok (.found location entry))
    (outside : isInside place location = false) :
    ∀ station ∈ stations changed true path, isInside place station = false := by
  intro station onWay
  by_contra inside
  obtain ⟨first, rest, isBelow⟩ := isInside_iff.mp (by simpa using inside)
  have content : changed.contentAt? station = contentBelow? addon bindings (first :: rest) := by
    rw [isBelow, writing.isFilled, contentAt?_filled_below]
  have isFile : contentBelow? addon bindings (first :: rest) = none ∨
      ∃ bytes, contentBelow? addon bindings (first :: rest) = some (.file bytes) := by
    rw [contentBelow?]
    split
    · exact .inr ⟨_, rfl⟩
    · split
      · exact .inr ⟨_, rfl⟩
      · exact .inl rfl
  rw [← content] at isFile
  rcases (locate_eq_ok_iff.mp located).2.content_of_mem_stations onWay with
    directory | ⟨target, link⟩ | atEnd
  · simp [directory] at isFile
  · simp [link] at isFile
  · rw [atEnd] at inside
    exact inside outside

/-- Writing the same addon again succeeds and changes nothing. -/
theorem again (accepted : isAddonName addon.toList = true) :
    (write directory addon bindings).run.run changed =
      (.ok (addonPaths directory addon), changed) := by
  have names : changed.namesIn place = [declarationName addon, nativeName addon] := by
    rw [writing.isFilled, namesIn_filled]
  have fit (name : String) (member : name ∈ changed.namesIn place) : Fits directory name := by
    rw [names, List.mem_pair] at member
    rcases member with rfl | rfl
    · exact writing.declarationFits
    · exact writing.nativeFits
  have single : (changed.namesIn place).Nodup := by
    rw [names]
    simp [(nativeName_ne_declarationName addon).symm]
  have unlinked (name : String) (member : name ∈ changed.namesIn place) (target : String) :
      changed.contentAt? (place ++ [name]) ≠ some (.link target) := by
    rw [writing.isFilled, contentAt?_filled_below, contentBelow?]
    split
    · simp
    · split <;> simp
  have permits : made.Permits changed := by
    rw [writing.isFilled]
    exact permits_filled
  have searchable := permits.searchable place writing.searchable
  have readable := permits.readable place writing.readable
  have same : filled changed place addon bindings = changed := by
    rw [writing.isFilled, filled_filled]
  rw [write_eq, Change.bind_eq_ok_iff]
  refine ⟨(), changed, writing.leadsTo_changed.ensureDirectories_eq, ?_⟩
  rw [Change.bind_eq_ok_iff]
  refine ⟨(), _, run_clear (writing.wellFormed accepted) fit single unlinked searchable readable
    writing.leadsTo_emptied, ?_⟩
  rw [writeFiles_eq_ok_iff accepted writing.leadsTo_emptied]
  exact ⟨searchable, writing.nativeFits, writing.declarationFits, rfl, same.symm⟩

end Writing

end AddonBindings.Output
