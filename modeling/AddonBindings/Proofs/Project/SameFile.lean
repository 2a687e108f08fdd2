import AddonBindings.Project.Settings
import AddonBindings.Proofs.Files.Linkless
import AddonBindings.Proofs.Project.PlainDiscovery

/-!
Contract: which of the sources that discovery finds are one file.

Owns:
- the names that a pattern without `..` adds to the project;
- the capstone: in a file system without links, two sources are one file exactly if they
  name one location, and no two are if no pattern goes back.

Does not own: the order of the sources, which is in
`AddonBindings.Proofs.Project.PlainDiscovery`.
-/

namespace AddonBindings.Project

open AddonBindings.Files AddonBindings.Repetition AddonBindings.Traversal

variable {tree : FileTree} {project path : Path} {found : List Path} {pattern : String}
  {patterns : List String}

/-! ## The names that a pattern adds -/

private theorem isEntryName_of_mem_parts {name text : String}
    (member : name ∈ (Path.ofText text).parts)
    (forward : ".." ∉ (Path.ofText text).parts) : IsEntryName name := by
  obtain ⟨split, kept⟩ := List.mem_filter.mp member
  obtain ⟨characters, isPart, rfl⟩ := List.mem_map.mp split
  refine ⟨?_, ?_, fun same => forward (same ▸ member)⟩
  · intro isSlash
    have slashless := Text.not_mem_of_mem_splitAtMark isPart
    rw [← String.toList_ofList (l := characters), isSlash] at slashless
    exact slashless (List.mem_singleton_self _)
  · intro isPoint
    rw [isPoint] at kept
    simp at kept

private theorem ofName_eq_exact {part name : String}
    (named : GlobPart.ofName part = .ok (.exact name)) :
    part = name := by
  rw [GlobPart.ofName] at named
  split at named
  · cases named
  · split at named
    · cases named
    · split at named
      · cases named
      · cases named
        rfl

private theorem mapM_ofName_of_ofText {glob : Glob} (isGlob : Glob.ofText pattern = .ok glob) :
    (Path.ofText pattern).parts.mapM GlobPart.ofName = .ok glob.parts := by
  rw [Glob.ofText] at isGlob
  dsimp only at isGlob
  split at isGlob
  · cases isGlob
  split at isGlob
  · cases isGlob
  split at isGlob
  · cases isGlob
  · obtain ⟨parts, named, same⟩ := bind_eq_ok_iff.mp isGlob
    cases same
    exact named

private theorem mem_parts_of_exact {glob : Glob} {name : String}
    (isGlob : Glob.ofText pattern = .ok glob)
    (member : .exact name ∈ glob.parts) : name ∈ (Path.ofText pattern).parts := by
  obtain ⟨part, inParts, named⟩ := exists_of_mem_of_mapM (mapM_ofName_of_ofText isGlob) member
  rwa [ofName_eq_exact named] at inParts

/-- A match of a pattern without `..` is the project with more names of entries. -/
theorem descends_of_forward (wellFormed : tree.WellFormed)
    (forward : ".." ∉ (Path.ofText pattern).parts) {paths : List Path}
    (globbed : matchesOf tree project pattern = .ok paths) (member : path ∈ paths) :
    Descends IsEntryName project path := by
  refine descends_of_matchesOf (fun entry inTree name => wellFormed.isEntryName_of_mem inTree) ?_
    globbed member
  intro glob isGlob name isExact
  exact isEntryName_of_mem_parts (mem_parts_of_exact isGlob isExact) forward

/-- Every source is a match of a pattern and stands below the project. -/
theorem exists_pattern_of_mem_sources (discovered : sources tree project patterns = .ok found)
    (member : path ∈ found) :
    path.anchor = project.anchor ∧ ∃ pattern ∈ patterns, ∃ paths,
      matchesOf tree project pattern = .ok paths ∧ path ∈ paths := by
  obtain ⟨selected, globbed, rfl⟩ := exists_selected_of_sources discovered
  obtain ⟨⟨paths, among, inPaths⟩, -⟩ := mem_plainSources_iff.mp member
  obtain ⟨names, isBelow⟩ := below_of_globbed globbed among inPaths
  obtain ⟨pattern, given, here⟩ := exists_of_mem_of_mapM globbed among
  exact ⟨by rw [Path.below?_eq_some_iff.mp isBelow], pattern, given, paths, here, inPaths⟩

private theorem nodup_of_sources (discovered : sources tree project patterns = .ok found) :
    found.Nodup := by
  obtain ⟨selected, -, rfl⟩ := exists_selected_of_sources discovered
  exact nodup_eraseDups _

private theorem startOf_of_anchor (same : path.anchor = project.anchor) :
    tree.startOf path = tree.startOf project := by
  rw [FileTree.startOf, FileTree.startOf, Path.isAbsolute, Path.isAbsolute, same]

/-- Paths that only add names of entries to the project name one location exactly if they
are one path. -/
theorem settled_injective {other : Path} (descends : Descends IsEntryName project path)
    (otherDescends : Descends IsEntryName project other)
    (same : settled (tree.startOf project) path.parts = settled (tree.startOf project) other.parts) :
    path = other := by
  obtain ⟨names, isBelow, areNames⟩ := descends
  obtain ⟨others, otherBelow, otherNames⟩ := otherDescends
  rw [Path.below?_eq_some_iff] at isBelow otherBelow
  rw [isBelow, otherBelow] at same ⊢
  rw [settled_append, settled_append, settled_names areNames, settled_names otherNames] at same
  rw [List.append_cancel_left same]

/-! ## Sources that are one file -/

/-- **Sources and files.**  In a file system without links, discovery gives no path twice,
and two of its paths lead to the same file exactly if they name the same location once
their `..` parts are carried out.  If no pattern has such a part, no two sources are the
same file. -/
theorem sources_denote_files (wellFormed : tree.WellFormed)
    (working : tree.contentAt? tree.working = some .directory) (linkless : tree.IsLinkless)
    (discovered : sources tree project patterns = .ok found) :
    found.Nodup ∧
      (∀ path ∈ found, ∀ other ∈ found, SameFile tree path other ↔
        settled (tree.startOf project) path.parts = settled (tree.startOf project) other.parts) ∧
      ((∀ pattern ∈ patterns, ".." ∉ (Path.ofText pattern).parts) →
        found.Pairwise fun path other => ¬ SameFile tree path other) := by
  have sameIff : ∀ path ∈ found, ∀ other ∈ found, SameFile tree path other ↔
      settled (tree.startOf project) path.parts = settled (tree.startOf project) other.parts := by
    intro path member other otherMember
    have start : tree.startOf path = tree.startOf project :=
      startOf_of_anchor (exists_pattern_of_mem_sources discovered member).1
    have otherStart : tree.startOf other = tree.startOf project :=
      startOf_of_anchor (exists_pattern_of_mem_sources discovered otherMember).1
    rw [sameFile_iff wellFormed working linkless (exists_file_of_mem_sources discovered member)
      (exists_file_of_mem_sources discovered otherMember), start, otherStart]
  have distinct := nodup_of_sources discovered
  refine ⟨distinct, sameIff, fun forward => ?_⟩
  have descends : ∀ path ∈ found, Descends IsEntryName project path := by
    intro path member
    obtain ⟨-, pattern, given, paths, here, inPaths⟩ :=
      exists_pattern_of_mem_sources discovered member
    exact descends_of_forward wellFormed (forward pattern given) here inPaths
  -- without `..` the location of a source tells its path
  refine distinct.imp_of_mem fun {path other} member otherMember differs same => differs ?_
  exact settled_injective (descends path member) (descends other otherMember)
    ((sameIff path member other otherMember).mp same)

/-- A project with a source beside a directory that holds another one. -/
def nestedTree : FileTree where
  entries := [(["a.go"], .file []), (["sub"], .directory), (["sub", "b.go"], .file [])]
  working := []

/-- Overlapping patterns that do not go back. -/
theorem nestedTree_distinct :
    sources nestedTree ⟨.current, []⟩ ["sub/./*.go", "**/*.go"] =
        .ok [⟨.current, ["sub", "b.go"]⟩, ⟨.current, ["a.go"]⟩] ∧
      ¬ SameFile nestedTree ⟨.current, ["sub", "b.go"]⟩ ⟨.current, ["a.go"]⟩ := by
  have discovered : sources nestedTree ⟨.current, []⟩ ["sub/./*.go", "**/*.go"] =
      .ok [⟨.current, ["sub", "b.go"]⟩, ⟨.current, ["a.go"]⟩] :=
    eq_ok_of_toOption (by decide +kernel)
  obtain ⟨-, -, distinct⟩ :=
    sources_denote_files (by decide +kernel) rfl (by decide +kernel) discovered
  have apart := distinct (by decide +kernel)
  exact ⟨discovered, List.pairwise_pair.mp apart⟩

/-- Settings with two spellings of one file. -/
def detourDocument : Datum :=
  .mapping [(.text "name", .text "calc"),
    (.text "files", .sequence [.text "a.go", .text "sub/../a.go"])]

/-- Settings are accepted by which discovery gives one file twice, though there are no
links. -/
theorem detourDocument_repeats :
    ∃ settings, Settings.ofDatum detourDocument Product.settingsFile = .ok settings ∧
      nestedTree.IsPossible ∧ nestedTree.IsLinkless ∧
      sources nestedTree ⟨.current, []⟩ settings.patterns =
        .ok [⟨.current, ["a.go"]⟩, ⟨.current, ["sub", "..", "a.go"]⟩] ∧
      SameFile nestedTree ⟨.current, ["a.go"]⟩ ⟨.current, ["sub", "..", "a.go"]⟩ := by
  refine ⟨⟨.text "calc", ["a.go", "sub/../a.go"], ""⟩, rfl, by decide +kernel, by decide +kernel,
    eq_ok_of_toOption (by decide +kernel), ["a.go"], [], ?_, ?_⟩
  · exact eq_ok_of_toOption (by decide +kernel)
  · exact eq_ok_of_toOption (by decide +kernel)

end AddonBindings.Project
