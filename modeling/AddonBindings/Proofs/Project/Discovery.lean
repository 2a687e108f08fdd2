import AddonBindings.Project.Discovery
import AddonBindings.Proofs.Files.Descent

/-!
Contract: discovery from the matches of the patterns.

Owns:
- discovery from any enumeration of the matches, which is that of a list of paths;
- the matches that are eligible, and those that the system refuses to look at;
- which paths of a list are new sources, and which failure there is otherwise;
- that every match lies below the project.

Does not own: the order of the sources, which is in
`AddonBindings.Proofs.Project.PlainDiscovery`.
-/

namespace AddonBindings.Project

open AddonBindings.Files AddonBindings.Traversal

variable {tree : FileTree} {project path : Path} {known paths found : List Path}
  {enumerations selected : List (List Path)} {patterns : List String}

/-! ## Matches -/

/-- What a pattern matches in a project, in the order in which the file system lists it. -/
def matchesOf (tree : FileTree) (project : Path) (pattern : String) : Except Fault (List Path) := do
  let glob ← (Glob.ofText pattern).mapError .pattern
  (select tree project glob).mapError .access

/-- The source files among the matches of patterns, which are given in any enumeration. -/
def sourcesAmong (tree : FileTree) (project : Path) (known : List Path) :
    List (List Path) → Except Failure (List Path)
  | [] => .ok []
  | paths :: rest => do
      let found ← newSources tree project known (Sorting.sort Path.le paths)
      return found ++ (← sourcesAmong tree project (found ++ known) rest)

/-- A name of the path below the project, besides the last, is that of a directory that is
never searched. -/
def leadsThroughSkipped (project path : Path) : Bool :=
  (path.parts.drop project.parts.length).dropLast.any skippedDirectories.contains

/-- The path leads to a file, and not through a directory that is never searched. -/
def isEligible (tree : FileTree) (project path : Path) : Bool :=
  !leadsThroughSkipped project path &&
    match locate tree true path with
    | .ok (.found _ (.file _)) => true
    | _ => false

/-- The system is asked about the path and refuses to follow it, although something may stand
there. -/
def isRefused (tree : FileTree) (project path : Path) : Bool :=
  !leadsThroughSkipped project path &&
    match locate tree true path with
    | .error (.refused fault) => !fault.reason.meansAbsent
    | _ => false

/-! ## New sources of a list -/

private theorem newSources_of_known (isKnown : path ∈ known) (rest : List Path) :
    newSources tree project known (path :: rest) = newSources tree project known rest := by
  rw [newSources, if_pos (by simpa using isKnown)]

/-- A path that is not known yet is looked at, and kept if it is a source. -/
theorem newSources_of_unknown (unknown : path ∉ known) (rest : List Path) :
    newSources tree project known (path :: rest) =
      isSource tree project path >>= fun isNew =>
        if isNew then (path :: ·) <$> newSources tree project (path :: known) rest
        else newSources tree project known rest := by
  rw [newSources, if_neg (by simpa using unknown)]
  rfl

/-- What is new does not depend on the order of what is known. -/
theorem newSources_congr {other : List Path} (same : ∀ path, path ∈ known ↔ path ∈ other)
    (paths : List Path) : newSources tree project known paths = newSources tree project other paths := by
  induction paths generalizing known other with
  | nil => rfl
  | cons path rest inductionHypothesis =>
      have sameTest : known.contains path = other.contains path := by
        rw [Bool.eq_iff_iff, List.contains_iff_mem, List.contains_iff_mem, same]
      have sameMore (earlier : Path) : earlier ∈ path :: known ↔ earlier ∈ path :: other := by
        rw [List.mem_cons, List.mem_cons, same]
      rw [newSources, newSources, sameTest, inductionHypothesis same, inductionHypothesis sameMore]

/-- The second of two lists in a row adds what the first has not given. -/
theorem newSources_append (paths more : List Path) :
    newSources tree project known (paths ++ more) =
      newSources tree project known paths >>= fun found =>
        (found ++ ·) <$> newSources tree project (found ++ known) more := by
  induction paths generalizing known with
  | nil => exact (id_map (newSources tree project known more)).symm
  | cons path rest inductionHypothesis =>
      rw [List.cons_append]
      by_cases isKnown : path ∈ known
      · rw [newSources_of_known isKnown, newSources_of_known isKnown, inductionHypothesis]
      · rw [newSources_of_unknown isKnown, newSources_of_unknown isKnown, bind_assoc]
        congr 1
        funext isNew
        cases isNew with
        | false => exact inductionHypothesis
        | true =>
            -- `path` is known from now on, whether it stands in front or among the others
            have sameKnown (found : List Path) :
                newSources tree project (found ++ path :: known) more =
                  newSources tree project (path :: found ++ known) more :=
              newSources_congr (fun earlier => by simp [or_left_comm]) more
            simp only [if_true, inductionHypothesis, sameKnown, map_eq_pure_bind, bind_assoc,
              pure_bind, List.cons_append]

/-- If it is decided which paths are sources, the new ones are those that are not known,
each where it occurs first. -/
theorem newSources_eq_ok (decided : ∀ path ∈ paths,
      isSource tree project path = .ok (isEligible tree project path)) :
    newSources tree project known paths =
      .ok (paths.filter fun path => isEligible tree project path && !known.contains path).eraseDups := by
  induction paths generalizing known with
  | nil => rfl
  | cons path rest inductionHypothesis =>
      have later : ∀ other ∈ rest, isSource tree project other = .ok (isEligible tree project other) :=
        fun other member => decided other (List.mem_cons_of_mem path member)
      by_cases isKnown : path ∈ known
      · rw [newSources_of_known isKnown, inductionHypothesis later,
          List.filter_cons_of_neg (by simp [isKnown])]
      · rw [newSources_of_unknown isKnown, decided path List.mem_cons_self]
        cases eligible : isEligible tree project path with
        | false =>
            rw [List.filter_cons_of_neg (by simp [eligible])]
            exact inductionHypothesis later
        | true =>
            -- what is dropped of the rest because `path` is known are its repetitions
            rw [List.filter_cons_of_pos (by simp [eligible, isKnown]), List.eraseDups_cons,
              List.filter_filter]
            show (path :: ·) <$> newSources tree project (path :: known) rest = _
            rw [inductionHypothesis later]
            refine congrArg (fun others : List Path => Except.ok (path :: others.eraseDups)) ?_
            refine List.filter_congr fun other _ => ?_
            rw [List.contains_cons, Bool.not_or, Bool.and_left_comm]

/-- Sources that are known are not looked at again, and would not fail. -/
theorem fault?_newSources
    (sound : ∀ path ∈ known, isSource tree project path = .ok true) (paths : List Path) :
    fault? (newSources tree project known paths) =
      paths.findSome? fun path => fault? (isSource tree project path) := by
  induction paths generalizing known with
  | nil => rfl
  | cons path rest inductionHypothesis =>
      rw [findSome?_cons_eq_or]
      by_cases isKnown : path ∈ known
      · rw [newSources_of_known isKnown, inductionHypothesis sound, sound path isKnown]
        rfl
      · rw [newSources_of_unknown isKnown]
        cases asked : isSource tree project path with
        | error failure => rfl
        | ok isNew =>
            cases isNew with
            | false => exact inductionHypothesis sound
            | true =>
                refine (fault?_map (path :: ·) _).trans (inductionHypothesis ?_)
                exact List.forall_mem_cons.mpr ⟨asked, sound⟩

/-! ## Discovery from an enumeration -/

private theorem selection_eq (pattern : String) :
    selection tree project pattern =
      Sorting.sort Path.le <$> matchesOf tree project pattern := by
  rw [selection, matchesOf, map_bind]
  rfl

/-- Discovery goes through the matches of all patterns. -/
theorem sourcesAfter_eq_sourcesAmong (known : List Path)
    (globbed : patterns.mapM (matchesOf tree project) = .ok selected) :
    sourcesAfter tree project known patterns =
      (sourcesAmong tree project known selected).mapError Fault.access := by
  induction patterns generalizing known selected with
  | nil =>
      cases globbed
      rfl
  | cons pattern rest inductionHypothesis =>
      obtain ⟨paths, others, here, later, rfl⟩ := mapM_cons_eq_ok_iff.mp globbed
      rw [sourcesAfter, selection_eq, here, sourcesAmong]
      show (newSources tree project known (Sorting.sort Path.le paths)).mapError Fault.access >>= _ = _
      cases newSources tree project known (Sorting.sort Path.le paths) with
      | error failure => rfl
      | ok found =>
          show sourcesAfter tree project (found ++ known) rest >>= _ = _
          rw [inductionHypothesis (found ++ known) later]
          show _ = Except.mapError _ (sourcesAmong tree project (found ++ known) others >>= _)
          cases sourcesAmong tree project (found ++ known) others with
          | error failure => rfl
          | ok more => rfl

theorem sourcesAmong_eq_newSources (known : List Path) (enumerations : List (List Path)) :
    sourcesAmong tree project known enumerations =
      newSources tree project known (enumerations.flatMap (Sorting.sort Path.le)) := by
  induction enumerations generalizing known with
  | nil => rfl
  | cons paths rest inductionHypothesis =>
      rw [List.flatMap_cons, newSources_append, sourcesAmong]
      congr 1
      funext found
      rw [inductionHypothesis]
      rfl

theorem exists_globbed_of_sourcesAfter
    (discovered : sourcesAfter tree project known patterns = .ok found) :
    ∃ selected, patterns.mapM (matchesOf tree project) = .ok selected := by
  induction patterns generalizing known found with
  | nil => exact ⟨[], rfl⟩
  | cons pattern rest inductionHypothesis =>
      rw [sourcesAfter, selection_eq] at discovered
      obtain ⟨sorted, here, onward⟩ := bind_eq_ok_iff.mp discovered
      obtain ⟨paths, globbed, -⟩ := map_eq_ok_iff.mp here
      obtain ⟨new, -, later⟩ := bind_eq_ok_iff.mp onward
      obtain ⟨others, ofRest, -⟩ := bind_eq_ok_iff.mp later
      obtain ⟨selected, restGlobbed⟩ := inductionHypothesis ofRest
      exact ⟨paths :: selected, mapM_cons_eq_ok_iff.mpr ⟨paths, selected, globbed, restGlobbed, rfl⟩⟩

/-! ## Whether a match is a source -/

private theorem isSkipped_eq_leadsThroughSkipped {names : List String}
    (isBelow : project.below? path = some names) :
    isSkipped project path = leadsThroughSkipped project path := by
  rw [isSkipped, stepsBelow, isBelow, Option.getD_some, leadsThroughSkipped,
    Path.below?_eq_some_iff.mp isBelow, List.drop_left]

theorem exists_isRefused (refused : isRefused tree project path = true) :
    ∃ reason, IsRefused tree path reason := by
  have present := (Bool.and_eq_true_iff.mp refused).2
  split at present
  · rename_i fault located
    rw [fault_of_locate located] at located
    exact ⟨fault.reason, by simpa using present, located⟩
  · cases present

/-- The system answers whether a path leads to a file, unless it refuses the path. -/
theorem isSource_of_not_isRefused {names : List String} (isBelow : project.below? path = some names)
    (taken : isRefused tree project path = false) :
    isSource tree project path = .ok (isEligible tree project path) := by
  rw [isSource, isSkipped_eq_leadsThroughSkipped isBelow, isEligible]
  rw [isRefused] at taken
  cases skipped : leadsThroughSkipped project path with
  | true => rfl
  | false =>
      rw [skipped, Bool.not_false, Bool.true_and] at taken
      rw [if_neg Bool.false_ne_true, Bool.not_false, Bool.true_and, isFile, entryAt]
      cases located : locate tree true path with
      | ok destination =>
          rcases destination with ⟨location, entry⟩ | location
          · cases entry with
            | file bytes => rfl
            | directory => rfl
            | link target => rfl
          · rfl
      | error failure =>
          cases failure with
          | nullCharacter => rfl
          | refused fault =>
              rw [located] at taken
              have absent : fault.reason.meansAbsent = true := by simpa using taken
              simp only [absent, if_true]
              rfl

/-- A refused path below the project fails discovery with the refusal. -/
theorem isSource_of_isRefused {names : List String} (isBelow : project.below? path = some names)
    (refused : isRefused tree project path = true) {failure : Failure}
    (located : locate tree true path = .error failure) :
    isSource tree project path = .error failure := by
  obtain ⟨notSkipped, present⟩ := Bool.and_eq_true_iff.mp refused
  rw [located] at present
  rw [isSource, isSkipped_eq_leadsThroughSkipped isBelow, if_neg (by simpa using notSkipped), isFile,
    entryAt, located]
  cases failure with
  | nullCharacter => cases present
  | refused fault =>
      have notAbsent : fault.reason.meansAbsent = false := by simpa using present
      simp only [notAbsent, Bool.false_eq_true, if_false]
      rfl

theorem exists_file_of_isEligible (eligible : isEligible tree project path = true) :
    ∃ location bytes, locate tree true path = .ok (.found location (.file bytes)) := by
  have isFile := (Bool.and_eq_true_iff.mp eligible).2
  split at isFile
  · rename_i located
    exact ⟨_, _, located⟩
  · cases isFile

/-! ## Matches below the project -/

/-- A match is the project with more names, which are given in the pattern or are names of
entries. -/
theorem descends_of_matchesOf {good : String → Prop} {pattern : String} {paths : List Path}
    (entries : ∀ entry ∈ tree.entries, ∀ name ∈ entry.1, good name)
    (given : ∀ glob, Glob.ofText pattern = .ok glob → ∀ name, .exact name ∈ glob.parts → good name)
    (globbed : matchesOf tree project pattern = .ok paths) (member : path ∈ paths) :
    Descends good project path := by
  obtain ⟨glob, isGlob, found⟩ := bind_eq_ok_iff.mp globbed
  exact descends_of_select entries (given glob (ok_of_mapError isGlob)) (ok_of_mapError found) member

theorem below_of_globbed (globbed : patterns.mapM (matchesOf tree project) = .ok selected)
    {paths : List Path} (among : paths ∈ selected) (member : path ∈ paths) :
    ∃ names, project.below? path = some names := by
  obtain ⟨pattern, -, here⟩ := exists_of_mem_of_mapM globbed among
  have descends : Descends (fun _ => True) project path :=
    descends_of_matchesOf (fun _ _ _ _ => trivial) (fun _ _ _ _ => trivial) here member
  obtain ⟨names, isBelow, -⟩ := descends
  exact ⟨names, isBelow⟩

end AddonBindings.Project
