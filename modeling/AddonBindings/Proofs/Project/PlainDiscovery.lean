import AddonBindings.Proofs.Files.PathOrder
import AddonBindings.Proofs.Project.Discovery
import AddonBindings.Proofs.Repetition

/-!
Contract: discovery against its plain definition.

Owns:
- the plain definition: the eligible matches of each pattern in path order, one pattern
  after the other, each path where it occurs first;
- that the order does not depend on how the matches are enumerated;
- the capstone: discovery gives the plain list, or fails at the first match that the system
  refuses to follow.

Does not own: which paths a pattern matches, which is in `AddonBindings.Files.Glob`.
-/

namespace AddonBindings.Project

open AddonBindings.Files AddonBindings.Repetition AddonBindings.Traversal

variable {tree : FileTree} {project path : Path} {known paths found : List Path}
  {enumerations selected : List (List Path)} {patterns : List String}

/-! ## The plain definition -/

/-- All matches in the order in which they are looked at. -/
def inOrder (enumerations : List (List Path)) : List Path :=
  enumerations.flatMap (·.mergeSort Path.le)

/-- The eligible matches, pattern by pattern in path order, each where it occurs first. -/
def plainSources (tree : FileTree) (project : Path) (enumerations : List (List Path)) : List Path :=
  (enumerations.flatMap fun paths =>
    (paths.filter (isEligible tree project)).mergeSort Path.le).eraseDups

theorem mem_plainSources_iff :
    path ∈ plainSources tree project enumerations ↔
      (∃ paths ∈ enumerations, path ∈ paths) ∧ isEligible tree project path = true := by
  rw [plainSources, List.mem_eraseDups, List.mem_flatMap]
  simp only [List.mem_mergeSort, List.mem_filter, ← and_assoc, exists_and_right]

/-! ## The order of the matches -/

section Enumeration

variable (below : ∀ paths ∈ enumerations, ∀ path ∈ paths, ∃ names, project.below? path = some names)
include below

private theorem anchor_of_below {paths : List Path} (among : paths ∈ enumerations)
    (member : path ∈ paths) :
    path.anchor = project.anchor := by
  obtain ⟨names, isBelow⟩ := below paths among path member
  rw [Path.below?_eq_some_iff.mp isBelow]

private theorem flatMap_sort_eq_inOrder :
    enumerations.flatMap (Sorting.sort Path.le) = inOrder enumerations := by
  rw [inOrder, List.flatMap_def, List.flatMap_def]
  refine congrArg List.flatten (List.map_congr_left fun paths among => ?_)
  exact Path.sort_eq_mergeSort fun path member => anchor_of_below below among member

/-- It is the same to filter first and to sort first. -/
theorem plainSources_eq :
    plainSources tree project enumerations =
      ((inOrder enumerations).filter (isEligible tree project)).eraseDups := by
  rw [plainSources, inOrder, List.filter_flatMap, List.flatMap_def, List.flatMap_def]
  refine congrArg (fun lists => (List.flatten lists).eraseDups) (List.map_congr_left ?_)
  intro paths among
  have start : ∀ path ∈ (paths.filter (isEligible tree project)).mergeSort Path.le,
      path.anchor = project.anchor := fun path member =>
    anchor_of_below below among (List.mem_filter.mp (List.mem_mergeSort.mp member)).1
  refine Path.eq_of_perm_of_pairwise ?_ start (Path.pairwise_mergeSort _)
    ((Path.pairwise_mergeSort paths).filter _)
  exact (List.mergeSort_perm _ Path.le).trans ((List.mergeSort_perm paths Path.le).symm.filter _)

private theorem below_of_mem_inOrder (member : path ∈ inOrder enumerations) :
    ∃ names, project.below? path = some names := by
  obtain ⟨paths, among, inPaths⟩ := List.mem_flatMap.mp member
  exact below paths among path (List.mem_mergeSort.mp inPaths)

private theorem sourcesAmong_eq_ok
    (taken : (inOrder enumerations).find? (isRefused tree project) = none) :
    sourcesAmong tree project [] enumerations = .ok (plainSources tree project enumerations) := by
  rw [sourcesAmong_eq_newSources, flatMap_sort_eq_inOrder below, plainSources_eq below]
  refine (newSources_eq_ok fun path member => ?_).trans ?_
  · obtain ⟨names, isBelow⟩ := below_of_mem_inOrder below member
    exact isSource_of_not_isRefused isBelow (by simpa using List.find?_eq_none.mp taken path member)
  · simp

/-- Discovery fails as the look at the first refused match does. -/
theorem sourcesAmong_eq_error {failure : Failure}
    (refused : (inOrder enumerations).find? (isRefused tree project) = some path)
    (located : locate tree true path = .error failure) :
    sourcesAmong tree project [] enumerations = .error failure := by
  rw [sourcesAmong_eq_newSources, flatMap_sort_eq_inOrder below, ← fault?_eq_some_iff,
    fault?_newSources (by simp), List.findSome?_eq_some_iff]
  obtain ⟨isFirst, before, later, split, earlier⟩ := List.find?_eq_some_iff_append.mp refused
  have member : path ∈ inOrder enumerations := by simp [split]
  refine ⟨before, path, later, split, ?_, fun other isBefore => ?_⟩
  · obtain ⟨names, isBelow⟩ := below_of_mem_inOrder below member
    rw [isSource_of_isRefused isBelow isFirst located]
    rfl
  · have otherMember : other ∈ inOrder enumerations := by simp [split, isBefore]
    obtain ⟨names, isBelow⟩ := below_of_mem_inOrder below otherMember
    rw [isSource_of_not_isRefused isBelow (by simpa using earlier other isBefore)]
    rfl

end Enumeration

/-- Both lists enumerate the same paths, pattern by pattern. -/
abbrev Enumerates (enumerations selected : List (List Path)) : Prop :=
  List.Forall₂ (fun paths found => ∀ path, path ∈ paths ↔ path ∈ found) enumerations selected

private theorem eraseDups_mergeSort_eq {anchor : Anchor} {paths others : List Path}
    (same : ∀ path, path ∈ paths ↔ path ∈ others) (start : ∀ path ∈ paths, path.anchor = anchor) :
    (paths.mergeSort Path.le).eraseDups = (others.mergeSort Path.le).eraseDups := by
  have sameStart : ∀ path ∈ (paths.mergeSort Path.le).eraseDups, path.anchor = anchor :=
    fun path member => start path (List.mem_mergeSort.mp (List.mem_eraseDups.mp member))
  refine Path.eq_of_perm_of_pairwise ?_ sameStart
    ((Path.pairwise_mergeSort paths).sublist (eraseDups_sublist _))
    ((Path.pairwise_mergeSort others).sublist (eraseDups_sublist _))
  rw [List.perm_ext_iff_of_nodup (nodup_eraseDups _) (nodup_eraseDups _)]
  intro path
  rw [List.mem_eraseDups, List.mem_eraseDups, List.mem_mergeSort, List.mem_mergeSort, same]

/-- Besides repetitions, the order in which matches are looked at does not depend on the
enumeration. -/
theorem eraseDups_inOrder_eq (same : Enumerates enumerations selected)
    (below : ∀ paths ∈ enumerations, ∀ path ∈ paths, ∃ names, project.below? path = some names) :
    (inOrder enumerations).eraseDups = (inOrder selected).eraseDups := by
  induction same with
  | nil => rfl
  | @cons paths found rest others sameFirst sameRest inductionHypothesis =>
      have first : (paths.mergeSort Path.le).eraseDups = (found.mergeSort Path.le).eraseDups :=
        eraseDups_mergeSort_eq sameFirst fun path => anchor_of_below below List.mem_cons_self
      have later : (inOrder rest).eraseDups = (inOrder others).eraseDups :=
        inductionHypothesis fun paths among => below paths (List.mem_cons_of_mem _ among)
      have sameTest (path : Path) : (paths.mergeSort Path.le).contains path =
          (found.mergeSort Path.le).contains path := by
        rw [Bool.eq_iff_iff, List.contains_iff_mem, List.contains_iff_mem, List.mem_mergeSort,
          List.mem_mergeSort, sameFirst]
      -- the later lists only add what the first one does not hold, in either enumeration
      show (paths.mergeSort Path.le ++ inOrder rest).eraseDups =
        (found.mergeSort Path.le ++ inOrder others).eraseDups
      rw [eraseDups_append_eq, eraseDups_append_eq, first, later]
      simp only [sameTest]

private theorem exists_of_mem_enumeration (same : Enumerates enumerations selected)
    {paths : List Path}
    (among : paths ∈ enumerations) :
    ∃ found ∈ selected, ∀ path, path ∈ paths ↔ path ∈ found := by
  obtain ⟨number, inRange, rfl⟩ := List.mem_iff_getElem.mp among
  exact ⟨_, List.getElem_mem (same.length_eq ▸ inRange), same.get inRange _⟩

/-- Discovery does not depend on the enumeration of the matches. -/
theorem sourcesAmong_congr (same : Enumerates enumerations selected)
    (below : ∀ paths ∈ enumerations, ∀ path ∈ paths, ∃ names, project.below? path = some names)
    (selectedBelow : ∀ paths ∈ selected, ∀ path ∈ paths, ∃ names, project.below? path = some names) :
    sourcesAmong tree project [] enumerations = sourcesAmong tree project [] selected := by
  have sameOrder := eraseDups_inOrder_eq same below
  have sameFind : (inOrder enumerations).find? (isRefused tree project) =
      (inOrder selected).find? (isRefused tree project) := by
    rw [← find?_eraseDups, sameOrder, find?_eraseDups]
  cases first : (inOrder selected).find? (isRefused tree project) with
  | some path =>
      obtain ⟨reason, -, located⟩ := exists_isRefused (List.find?_some first)
      rw [sourcesAmong_eq_error below (sameFind.trans first) located,
        sourcesAmong_eq_error selectedBelow first located]
  | none =>
      rw [sourcesAmong_eq_ok below (sameFind.trans first), sourcesAmong_eq_ok selectedBelow first,
        plainSources_eq below, plainSources_eq selectedBelow, ← filter_eraseDups,
        ← filter_eraseDups, sameOrder]

/-- What discovery gives is the plain list of the matches. -/
theorem exists_selected_of_sources (discovered : sources tree project patterns = .ok found) :
    ∃ selected, patterns.mapM (matchesOf tree project) = .ok selected ∧
      found = plainSources tree project selected := by
  obtain ⟨selected, globbed⟩ := exists_globbed_of_sourcesAfter discovered
  have below : ∀ paths ∈ selected, ∀ path ∈ paths, ∃ names, project.below? path = some names :=
    fun paths among path => below_of_globbed globbed among
  refine ⟨selected, globbed, ?_⟩
  rw [sources, sourcesAfter_eq_sourcesAmong [] globbed] at discovered
  have succeeded := ok_of_mapError discovered
  cases first : (inOrder selected).find? (isRefused tree project) with
  | some path =>
      obtain ⟨reason, -, located⟩ := exists_isRefused (List.find?_some first)
      rw [sourcesAmong_eq_error below first located] at succeeded
      cases succeeded
  | none =>
      rw [sourcesAmong_eq_ok below first] at succeeded
      exact (Except.ok.inj succeeded).symm

/-- Every source leads to a file. -/
theorem exists_file_of_mem_sources (discovered : sources tree project patterns = .ok found)
    (member : path ∈ found) :
    ∃ location bytes, locate tree true path = .ok (.found location (.file bytes)) := by
  obtain ⟨selected, -, rfl⟩ := exists_selected_of_sources discovered
  exact exists_file_of_isEligible (mem_plainSources_iff.mp member).2

/-! ## Discovery is its plain definition -/

/-- **Discovery and its plain definition.**  If every pattern can be applied, and in whatever
order and with whatever repetitions its matches are enumerated: each match lies below the
project, and discovery gives the eligible matches, pattern by pattern in path order, each
where it occurs first.  Only if the system refuses to follow a match, because a name or a path
is too long or a directory may not be searched, discovery fails, at the first one of these. -/
theorem sources_of_enumeration (globbed : patterns.mapM (matchesOf tree project) = .ok selected)
    (same : Enumerates enumerations selected) :
    (∀ paths ∈ enumerations, ∀ path ∈ paths, ∃ names, project.below? path = some names) ∧
      sources tree project patterns =
        (sourcesAmong tree project [] enumerations).mapError Fault.access ∧
      ((∀ paths ∈ enumerations, ∀ path ∈ paths, isRefused tree project path = false) →
        sources tree project patterns = .ok (plainSources tree project enumerations)) ∧
      (∀ path, (inOrder enumerations).find? (isRefused tree project) = some path →
        ∃ reason, IsRefused tree path reason ∧
          sources tree project patterns = .error (.access (.refused ⟨reason, path.text, none⟩))) ∧
      (plainSources tree project enumerations).Nodup ∧
      ∀ path, path ∈ plainSources tree project enumerations ↔
        (∃ paths ∈ enumerations, path ∈ paths) ∧ isEligible tree project path = true := by
  have selectedBelow : ∀ paths ∈ selected, ∀ path ∈ paths,
      ∃ names, project.below? path = some names :=
    fun paths among path => below_of_globbed globbed among
  have below : ∀ paths ∈ enumerations, ∀ path ∈ paths,
      ∃ names, project.below? path = some names := by
    intro paths among path member
    obtain ⟨found, inSelected, samePaths⟩ := exists_of_mem_enumeration same among
    exact selectedBelow found inSelected path ((samePaths path).mp member)
  have discovered : sources tree project patterns =
      (sourcesAmong tree project [] enumerations).mapError Fault.access := by
    rw [sources, sourcesAfter_eq_sourcesAmong [] globbed,
      sourcesAmong_congr same below selectedBelow]
  refine ⟨below, discovered, fun taken => ?_, fun path refused => ?_, nodup_eraseDups _,
    fun path => mem_plainSources_iff⟩
  · have noneRefused : (inOrder enumerations).find? (isRefused tree project) = none := by
      refine List.find?_eq_none.mpr fun path member => ?_
      obtain ⟨paths, among, inPaths⟩ := List.mem_flatMap.mp member
      simp [taken paths among path (List.mem_mergeSort.mp inPaths)]
    rw [discovered, sourcesAmong_eq_ok below noneRefused]
    rfl
  · obtain ⟨reason, isRefused⟩ := exists_isRefused (List.find?_some refused)
    refine ⟨reason, isRefused, ?_⟩
    rw [discovered, sourcesAmong_eq_error below refused isRefused.2]
    rfl

/-- A project with a source, a link to it, and a source that is not searched. -/
def variedTree : FileTree where
  entries := [(["b.go"], .file []), (["a.go"], .link "b.go"), (["vendor"], .directory),
    (["vendor", "c.go"], .file [])]
  working := []

/-- The matches of two overlapping patterns, backwards and with repetitions. -/
def variedEnumeration : List (List Path) :=
  [[⟨.current, ["b.go"]⟩, ⟨.current, ["b.go"]⟩],
    [⟨.current, ["vendor", "c.go"]⟩, ⟨.current, ["a.go"]⟩, ⟨.current, ["b.go"]⟩, ⟨.current, ["a.go"]⟩]]

theorem variedTree_sources :
    sources variedTree ⟨.current, []⟩ ["b.go", "**/*.go"] =
        .ok (plainSources variedTree ⟨.current, []⟩ variedEnumeration) ∧
      plainSources variedTree ⟨.current, []⟩ variedEnumeration =
        [⟨.current, ["b.go"]⟩, ⟨.current, ["a.go"]⟩] := by
  have globbed : ["b.go", "**/*.go"].mapM (matchesOf variedTree ⟨.current, []⟩) =
      .ok [[⟨.current, ["b.go"]⟩],
        [⟨.current, ["b.go"]⟩, ⟨.current, ["a.go"]⟩, ⟨.current, ["vendor", "c.go"]⟩]] :=
    eq_ok_of_toOption (by decide +kernel)
  have same : Enumerates variedEnumeration
      [[⟨.current, ["b.go"]⟩],
        [⟨.current, ["b.go"]⟩, ⟨.current, ["a.go"]⟩, ⟨.current, ["vendor", "c.go"]⟩]] := by
    refine .cons (fun path => ?_) (.cons (fun path => ?_) .nil)
    · simp
    · simp only [List.mem_cons, List.not_mem_nil, or_false]
      constructor
      · rintro (rfl | rfl | rfl | rfl) <;> simp
      · rintro (rfl | rfl | rfl) <;> simp
  have found : sources variedTree ⟨.current, []⟩ ["b.go", "**/*.go"] =
      .ok [⟨.current, ["b.go"]⟩, ⟨.current, ["a.go"]⟩] := eq_ok_of_toOption (by decide +kernel)
  obtain ⟨-, -, plain, -⟩ := sources_of_enumeration globbed same
  have isPlain := plain (by decide +kernel)
  exact ⟨isPlain, Except.ok.inj (isPlain.symm.trans found)⟩

/-- A project with a link whose target is a name that no file can have. -/
def overlongTree : FileTree where
  entries := [(["l.go"], .link (String.ofList (List.replicate 256 'a')))]
  working := []

/-- All patterns can be applied, and yet discovery does not give the plain list. -/
theorem overlongTree_refused :
    ["*.go"].mapM (matchesOf overlongTree ⟨.current, []⟩) = .ok [[⟨.current, ["l.go"]⟩]] ∧
      plainSources overlongTree ⟨.current, []⟩ [[⟨.current, ["l.go"]⟩]] = [] ∧
      sources overlongTree ⟨.current, []⟩ ["*.go"] =
        .error (.access (.refused ⟨.nameTooLong, "l.go", none⟩)) := by
  have globbed : ["*.go"].mapM (matchesOf overlongTree ⟨.current, []⟩) =
      .ok [[⟨.current, ["l.go"]⟩]] := eq_ok_of_toOption (by decide +kernel)
  have located : locate overlongTree true ⟨.current, ["l.go"]⟩ =
      .error (.refused ⟨.nameTooLong, "l.go", none⟩) := by decide +kernel
  have notEligible : isEligible overlongTree ⟨.current, []⟩ ⟨.current, ["l.go"]⟩ = false := by
    rw [isEligible, located, Bool.and_false]
  have asked : isSource overlongTree ⟨.current, []⟩ ⟨.current, ["l.go"]⟩ =
      .error (.refused ⟨.nameTooLong, "l.go", none⟩) := by
    rw [isSource, isFile, entryAt, located]
    rfl
  have refused : sourcesAmong overlongTree ⟨.current, []⟩ [] [[⟨.current, ["l.go"]⟩]] =
      .error (.refused ⟨.nameTooLong, "l.go", none⟩) := by
    rw [sourcesAmong_eq_newSources]
    show newSources _ _ [] [⟨.current, ["l.go"]⟩] = _
    rw [newSources_of_unknown (by simp), asked]
    rfl
  refine ⟨globbed, by simp [plainSources, notEligible], ?_⟩
  rw [sources, sourcesAfter_eq_sourcesAmong [] globbed, refused]
  rfl

end AddonBindings.Project
