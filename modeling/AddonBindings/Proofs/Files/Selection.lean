import AddonBindings.Files.Glob
import AddonBindings.Proofs.Files.Destination
import AddonBindings.Proofs.Text.Lines
import AddonBindings.Proofs.Traversal

/-!
Contract: what can fail while a pattern is applied to a file system.

Owns:
- paths that the system refuses to follow, although something may stand there;
- what a search that stops where access is denied gives;
- the law that a search from a directory fails, if at all, because some path is refused;
- that a search of all levels below a directory comes to its end.

Does not own: which paths a pattern selects, and which texts are patterns.
-/

namespace AddonBindings.Files

open Traversal

variable {tree : FileTree} {path found : Path} {failure : Failure} {place : Location} {name : String}

/-! ## Paths that are refused -/

/-- The system refuses to follow the path, because it, or a name on its way, is too long, or
because a directory on its way may not be searched. -/
def IsRefused (tree : FileTree) (path : Path) (reason : AccessReason) : Prop :=
  reason.meansAbsent = false ∧ locate tree true path = .error (.refused ⟨reason, path.text, none⟩)

def Failure.IsRefusal (tree : FileTree) (failure : Failure) : Prop :=
  ∃ path reason, IsRefused tree path reason ∧ failure = .refused ⟨reason, path.text, none⟩

theorem fault_of_locate {follow : Bool} {fault : AccessFault}
    (failed : locate tree follow path = .error (.refused fault)) :
    fault = ⟨fault.reason, path.text, none⟩ := by
  rw [locate] at failed
  split at failed
  · cases failed
  · obtain ⟨reason, -, same⟩ := mapError_eq_error_iff.mp failed
    cases same
    rfl

private theorem isRefusal_of_entryAt (failed : entryAt tree true path = .error failure) :
    failure.IsRefusal tree := by
  rw [entryAt] at failed
  split at failed
  · cases failed
  · cases failed
  · cases failed
  · rename_i fault located
    split at failed
    · cases failed
    · rename_i present
      cases failed
      have whole := fault_of_locate located
      rw [whole] at located
      exact ⟨path, fault.reason, ⟨by simpa using present, located⟩, congrArg Failure.refused whole⟩

theorem isRefusal_of_map_entryAt {α : Type} {view : Option Entry → α}
    (failed : (entryAt tree true path).map view = .error failure) : failure.IsRefusal tree := by
  rw [← fault?_eq_some_iff, fault?_map, fault?_eq_some_iff] at failed
  exact isRefusal_of_entryAt failed

/-! ## Directories that are searched -/

/-- The path leads to a directory, as far as the system tells. -/
def MayBeDirectory (tree : FileTree) (path : Path) : Prop :=
  (∃ place, LeadsTo tree path place) ∨ ∃ reason, IsRefused tree path reason

private theorem exists_leadsTo_of_isDirectory (there : isDirectory tree path = .ok true) :
    ∃ place, LeadsTo tree path place := by
  obtain ⟨entry, answered, isDirectory⟩ := map_eq_ok_iff.mp there
  have same : entry = some .directory := by simpa using isDirectory
  rw [same, entryAt] at answered
  split at answered
  · rename_i located
    cases answered
    exact ⟨_, located⟩
  · cases answered
  · cases answered
  · split at answered
    · cases answered
    · cases answered

/-- The failure to open a directory is a refusal, or its listing is denied. -/
theorem isRefusal_of_openDirectory (may : MayBeDirectory tree path)
    (failed : openDirectory tree path = .error failure) :
    failure.IsRefusal tree ∨ failure.isDenied = true := by
  rcases may with ⟨place, leads⟩ | ⟨reason, refused⟩
  · rw [leads.openDirectory_eq] at failed
    split at failed
    · cases failed
    · cases failed
      exact .inr rfl
  · rw [openDirectory, refused.2] at failed
    cases failed
    exact .inl ⟨path, reason, refused, rfl⟩

/-! ## Directories below a directory -/

/-- Every location has one entry and every entry stands in a directory under a name, and
no name holds a null character. -/
structure FileTree.IsPossible (tree : FileTree) : Prop where
  wellFormed : tree.WellFormed
  once : (tree.entries.map Prod.fst).Nodup
  plain : ∀ entry ∈ tree.entries, ∀ name ∈ entry.1, '\x00' ∉ name.toList

instance (tree : FileTree) : Decidable tree.IsPossible :=
  decidable_of_iff
    (tree.WellFormed ∧ (tree.entries.map Prod.fst).Nodup ∧
      ∀ entry ∈ tree.entries, ∀ name ∈ entry.1, '\x00' ∉ name.toList)
    ⟨fun ⟨wellFormed, once, plain⟩ => ⟨wellFormed, once, plain⟩,
      fun ⟨wellFormed, once, plain⟩ => ⟨wellFormed, once, plain⟩⟩

/-- Besides points and slashes, the text of a path has the characters of its parts. -/
theorem Path.mem_text_iff {c : Char} (noPoint : c ≠ '.') (noSlash : c ≠ '/') :
    c ∈ path.text.toList ↔ ∃ part ∈ path.parts, c ∈ part.toList := by
  obtain ⟨anchor, parts⟩ := path
  have parted : c ∈ (String.intercalate "/" parts).toList ↔ ∃ part ∈ parts, c ∈ part.toList := by
    have spelled : c ∈ ['/'].intercalate (parts.map String.toList) ↔
        ∃ list ∈ parts.map String.toList, c ∈ list :=
      Text.mem_intercalate_iff noSlash
    rw [String.toList_intercalate]
    simpa using spelled
  cases anchor with
  | current =>
      cases parts with
      | nil => simp [text, noPoint]
      | cons first rest => simpa [text, Anchor.text] using parted
  | root => simpa [text, Anchor.text, noSlash] using parted
  | doubleRoot => simpa [text, Anchor.text, noSlash] using parted

/-- The name of a directory in a directory leads there, or is refused: no link is followed. -/
theorem resolve_child (wellFormed : tree.WellFormed)
    (way : Way tree true (.found place .directory) linkLimit (tree.startOf path) path.wayPoints)
    (content : tree.contentAt? (place ++ [name]) = some .directory) :
    resolve tree true (path.child name) = .ok (.found (place ++ [name]) .directory) ∨
      ∃ reason : AccessReason, reason.meansAbsent = false ∧
        resolve tree true (path.child name) = .error reason := by
  have isName := wellFormed.names place name (by simp [content])
  obtain ⟨left, same⟩ := way.walk_append (List.cons_ne_nil name [])
  have walked : walk tree true linkLimit (tree.startOf (path.child name)) (path.child name).wayPoints =
      walk tree true left place [name] := by
    rw [Path.wayPoints_child, FileTree.startOf_child, same]
  rw [resolve]
  split
  · exact .inr ⟨.nameTooLong, rfl, rfl⟩
  · rw [show (if (path.child name).isAbsolute then [] else tree.working) =
      tree.startOf (path.child name) from rfl, walked, walk]
    cases searchable : tree.isSearchable place with
    | false =>
        rw [leg_of_not_searchable isName.1 searchable]
        exact .inr ⟨.noAccess, rfl, rfl⟩
    | true =>
    by_cases tooLong : nameLimit < name.utf8ByteSize
    · rw [leg_of_tooLong isName searchable tooLong]
      exact .inr ⟨.nameTooLong, rfl, rfl⟩
    · rw [leg_name isName searchable (Nat.le_of_not_lt tooLong), content]
      exact .inl rfl

private theorem mayBeDirectory_child (possible : tree.IsPossible) (leads : LeadsTo tree path place)
    (content : tree.contentAt? (place ++ [name]) = some .directory) :
    LeadsTo tree (path.child name) (place ++ [name]) ∨
      ∃ reason, IsRefused tree (path.child name) reason := by
  obtain ⟨passable, way⟩ := locate_eq_ok_iff.mp leads
  have plain : (path.child name).text.toList.contains '\x00' = false := by
    have onTheWay := passable.plain
    have member := FileTree.mem_entries_of_contentAt? (by simp) content
    rw [Path.mem_text_iff (by decide) (by decide)] at onTheWay
    rw [← Bool.not_eq_true, List.contains_iff_mem, Path.mem_text_iff (by decide) (by decide)]
    rintro ⟨part, among, isNull⟩
    rcases List.mem_append.mp among with front | back
    · exact onTheWay ⟨part, front, isNull⟩
    · rw [List.mem_singleton.mp back] at isNull
      exact possible.plain _ member name (by simp) isNull
  unfold LeadsTo IsRefused
  rw [locate, plain]
  rcases resolve_child possible.wellFormed way content with arrived | ⟨reason, present, refused⟩
  · rw [arrived]
    exact .inl rfl
  · rw [refused]
    exact .inr ⟨reason, present, rfl⟩

/-! ## Searches that stop where access is denied -/

section Search

variable {attempt : Except Failure (List Path)} {paths : List Path}
  {test : String → Except Failure Bool} {select : String → Except Failure (List Path)}
  {names : List String}

private theorem untilDenied_error (failure : Failure) :
    untilDenied (.error failure) = if failure.isDenied then .ok [] else .error failure :=
  rfl

private theorem untilDenied_eq_error_iff :
    untilDenied attempt = .error failure ↔ attempt = .error failure ∧ failure.isDenied = false := by
  cases attempt with
  | ok paths => exact iff_of_false (fun same => nomatch same) fun same => nomatch same.1
  | error other =>
      rw [untilDenied_error, Except.error.injEq]
      cases denied : other.isDenied with
      | true =>
          refine iff_of_false (by simp) ?_
          rintro ⟨rfl, notDenied⟩
          rw [denied] at notDenied
          cases notDenied
      | false =>
          rw [if_neg Bool.false_ne_true, Except.error.injEq]
          refine ⟨fun same => ⟨same, same ▸ denied⟩, And.left⟩

theorem eq_ok_of_mem_untilDenied (searched : untilDenied attempt = .ok paths)
    (member : found ∈ paths) : attempt = .ok paths := by
  cases attempt with
  | ok others => exact searched
  | error other =>
      rw [untilDenied_error] at searched
      split at searched
      · cases searched
        cases member
      · cases searched

private theorem selectAmong_cons (name : String) (rest : List String) :
    selectAmong test select (name :: rest) =
      untilDenied (test name >>= fun passes =>
        if passes then
          select name >>= fun here =>
            selectAmong test select rest >>= fun others => pure (here ++ others)
        else selectAmong test select rest) := by
  rfl

private theorem exists_of_selectAmong_eq_error
    (failed : selectAmong test select names = .error failure) :
    failure.isDenied = false ∧ ∃ name ∈ names, test name = .error failure ∨
      test name = .ok true ∧ select name = .error failure := by
  induction names with
  | nil => cases failed
  | cons name rest inductionHypothesis =>
      rw [selectAmong_cons] at failed
      obtain ⟨attempted, notDenied⟩ := untilDenied_eq_error_iff.mp failed
      have later (ofRest : selectAmong test select rest = .error failure) :
          failure.isDenied = false ∧ ∃ other ∈ name :: rest, test other = .error failure ∨
            test other = .ok true ∧ select other = .error failure := by
        obtain ⟨-, other, member, fails⟩ := inductionHypothesis ofRest
        exact ⟨notDenied, other, List.mem_cons_of_mem name member, fails⟩
      rcases bind_eq_error_iff.mp attempted with refused | ⟨passes, tested, onward⟩
      · exact ⟨notDenied, name, List.mem_cons_self, .inl refused⟩
      · cases passes with
        | false => exact later onward
        | true =>
            rcases bind_eq_error_iff.mp onward with here | ⟨first, -, others⟩
            · exact ⟨notDenied, name, List.mem_cons_self, .inr ⟨tested, here⟩⟩
            · rcases bind_eq_error_iff.mp others with ofRest | ⟨more, -, same⟩
              · exact later ofRest
              · cases same

theorem exists_of_mem_selectAmong (searched : selectAmong test select names = .ok paths)
    (member : found ∈ paths) :
    ∃ name ∈ names, test name = .ok true ∧ ∃ here, select name = .ok here ∧ found ∈ here := by
  induction names generalizing paths with
  | nil =>
      cases searched
      cases member
  | cons name rest inductionHypothesis =>
      rw [selectAmong_cons] at searched
      obtain ⟨passes, tested, onward⟩ := bind_eq_ok_iff.mp (eq_ok_of_mem_untilDenied searched member)
      have later {others : List Path} (ofRest : selectAmong test select rest = .ok others)
          (among : found ∈ others) :
          ∃ other ∈ name :: rest, test other = .ok true ∧
            ∃ here, select other = .ok here ∧ found ∈ here := by
        obtain ⟨other, inRest, selected⟩ := inductionHypothesis ofRest among
        exact ⟨other, List.mem_cons_of_mem name inRest, selected⟩
      cases passes with
      | false => exact later onward member
      | true =>
          obtain ⟨here, selected, ofRest⟩ := bind_eq_ok_iff.mp onward
          obtain ⟨others, searchedRest, same⟩ := bind_eq_ok_iff.mp ofRest
          cases same
          rcases List.mem_append.mp member with isHere | among
          · exact ⟨name, List.mem_cons_self, tested, here, selected, isHere⟩
          · exact later searchedRest among

end Search

/-! ## The search of a pattern -/

section Pattern

variable {select : Path → Except Failure (List Path)} {paths : List Path} {onlyDirectories : Bool}
  {pattern : String}

private theorem isRefusal_of_isListedDirectory
    (failed : isListedDirectory tree place path name = .error failure) :
    failure.IsRefusal tree := by
  rw [isListedDirectory] at failed
  split at failed
  · exact isRefusal_of_map_entryAt failed
  · cases failed

/-- A point more at the start of a way leads nowhere else. -/
theorem leg_point_point {follow : Bool} (current : Location) (rest : List String) :
    leg tree follow current ("." :: "." :: rest) = leg tree follow current ("." :: rest) := by
  cases searchable : tree.isSearchable current with
  | true => rw [leg_point searchable]
  | false =>
      rw [leg_of_not_searchable (by decide) searchable, leg_of_not_searchable (by decide) searchable]

theorem LeadsTo.child_of_listedPath (leads : LeadsTo tree (listedPath path name) place) :
    LeadsTo tree (path.child name) place := by
  rw [listedPath] at leads
  split at leads
  · rename_i isPoint
    subst isPoint
    obtain ⟨passable, way⟩ := locate_eq_ok_iff.mp leads
    have longer : Path.text ⟨.current, [".", name]⟩ = "./" ++ Path.text ⟨.current, [name]⟩ := by
      simp [Path.text, Anchor.text, String.intercalate_cons_cons]
    have isPassable : Path.IsPassable ⟨.current, [name]⟩ := by
      obtain ⟨plain, short⟩ := passable
      rw [longer, String.toList_append, List.mem_append, not_or] at plain
      rw [longer, String.utf8ByteSize_append] at short
      exact ⟨plain.2, by omega⟩
    refine locate_eq_ok_iff.mpr ⟨isPassable, ?_⟩
    have same : leg tree true tree.working [".", ".", name] = leg tree true tree.working [".", name] :=
      leg_point_point tree.working [name]
    rw [← walk_eq_ok_iff, walk] at way ⊢
    exact same ▸ way
  · exact leads

private theorem mayBeDirectory_of_isListedDirectory (possible : tree.IsPossible)
    (leads : LeadsTo tree path place) (listed : isListedDirectory tree place path name = .ok true) :
    MayBeDirectory tree (path.child name) := by
  rw [isListedDirectory] at listed
  split at listed
  · obtain ⟨there, leadsThere⟩ := exists_leadsTo_of_isDirectory listed
    exact .inl ⟨there, leadsThere.child_of_listedPath⟩
  · have content : tree.contentAt? (place ++ [name]) = some .directory := by
      simpa using Except.ok.inj listed
    exact (mayBeDirectory_child possible leads content).imp (fun leadsThere => ⟨_, leadsThere⟩) id

/-- What is asked of a name in a directory before it is selected. -/
def isWanted (tree : FileTree) (onlyDirectories : Bool) (pattern : String) (place : Location)
    (path : Path) (name : String) : Except Failure Bool := do
  let wanted ← if onlyDirectories then isListedDirectory tree place path name else .ok true
  return wanted && matchesName pattern name

theorem selectMatching_eq :
    selectMatching tree onlyDirectories pattern select path =
      untilDenied (openDirectory tree path >>= fun place =>
        selectAmong (isWanted tree onlyDirectories pattern place path) (select ∘ path.child)
          (tree.namesIn place)) := by
  rfl

private theorem isRefusal_of_isWanted
    (failed : isWanted tree onlyDirectories pattern place path name = .error failure) :
    failure.IsRefusal tree := by
  cases onlyDirectories with
  | false => cases failed
  | true =>
      rcases bind_eq_error_iff.mp failed with asked | ⟨wanted, -, same⟩
      · exact isRefusal_of_isListedDirectory asked
      · cases same

private theorem isListedDirectory_of_isWanted
    (wanted : isWanted tree true pattern place path name = .ok true) :
    isListedDirectory tree place path name = .ok true := by
  obtain ⟨listed, asked, same⟩ := bind_eq_ok_iff.mp wanted
  have both : (listed && matchesName pattern name) = true := Except.ok.inj same
  rw [(Bool.and_eq_true_iff.mp both).1] at asked
  exact asked

/-- If every failure inside a directory is a refusal, so is every failure of a search in it. -/
private theorem isRefusal_of_untilDenied {inside : Location → Except Failure (List Path)}
    (may : MayBeDirectory tree path)
    (later : ∀ place failure, LeadsTo tree path place → inside place = .error failure →
      failure.IsRefusal tree)
    (failed : untilDenied (openDirectory tree path >>= inside) = .error failure) :
    failure.IsRefusal tree := by
  obtain ⟨attempted, notDenied⟩ := untilDenied_eq_error_iff.mp failed
  rcases bind_eq_error_iff.mp attempted with unopened | ⟨place, opened, searched⟩
  · rcases isRefusal_of_openDirectory may unopened with refused | denied
    · exact refused
    · rw [notDenied] at denied
      cases denied
  · exact later place failure (openDirectory_eq_ok_iff.mp opened).1 searched

private theorem isRefusal_of_selectMatching (possible : tree.IsPossible)
    (may : MayBeDirectory tree path)
    (later : ∀ found failure, (onlyDirectories = true → MayBeDirectory tree found) →
      select found = .error failure → failure.IsRefusal tree)
    (failed : selectMatching tree onlyDirectories pattern select path = .error failure) :
    failure.IsRefusal tree := by
  rw [selectMatching_eq] at failed
  refine isRefusal_of_untilDenied may (fun place failure leads searched => ?_) failed
  obtain ⟨-, name, -, refused | ⟨wanted, fails⟩⟩ := exists_of_selectAmong_eq_error searched
  · exact isRefusal_of_isWanted refused
  · refine later (path.child name) failure (fun only => ?_) fails
    rw [only] at wanted
    exact mayBeDirectory_of_isListedDirectory possible leads (isListedDirectory_of_isWanted wanted)

/-- A further level: what is selected here, and then what is selected below each
directory. -/
theorem selectDeep_succ (levels : Nat) (path : Path) :
    selectDeep tree select (levels + 1) path =
      select path >>= fun here =>
        untilDenied (openDirectory tree path >>= fun place =>
          ((tree.namesIn place).filter fun name =>
            tree.contentAt? (place ++ [name]) = some .directory).mapM
              (selectDeep tree select levels ∘ path.child) >>= fun lists => pure lists.flatten) >>=
          fun below => pure (here ++ below) := by
  rfl

private theorem isRefusal_of_selectDeep (possible : tree.IsPossible)
    (may : MayBeDirectory tree path)
    (later : ∀ found failure, MayBeDirectory tree found → select found = .error failure →
      failure.IsRefusal tree) {levels : Nat}
    (failed : selectDeep tree select levels path = .error failure) : failure.IsRefusal tree := by
  induction levels generalizing path failure with
  | zero => exact later path failure may failed
  | succ levels inductionHypothesis =>
      rw [selectDeep_succ] at failed
      rcases bind_eq_error_iff.mp failed with here | ⟨first, -, onward⟩
      · exact later path failure may here
      rcases bind_eq_error_iff.mp onward with below | ⟨more, -, same⟩
      · refine isRefusal_of_untilDenied may (fun place failure leads searched => ?_) below
        rcases bind_eq_error_iff.mp searched with inside | ⟨lists, -, same⟩
        · obtain ⟨name, member, fails⟩ := exists_of_mapM_eq_error inside
          have content := of_decide_eq_true (List.mem_filter.mp member).2
          have mayChild := mayBeDirectory_child possible leads content
          exact inductionHypothesis (mayChild.imp (fun leadsThere => ⟨_, leadsThere⟩) id) fails
        · cases same
      · cases same

/-! ## All levels below a directory -/

theorem FileTree.length_le_depth {location : Location} {entry : Entry}
    (content : tree.contentAt? location = some entry) : location.length ≤ tree.depth := by
  by_cases isRoot : location = []
  · simp [isRoot]
  · have member := FileTree.mem_entries_of_contentAt? isRoot content
    exact List.le_max?_getD_of_mem (List.mem_map_of_mem member)

private theorem selectDeep_congr (leads : LeadsTo tree path place) {levels others : Nat}
    (same : ∀ name, tree.contentAt? (place ++ [name]) = some .directory →
      selectDeep tree select levels (path.child name) =
        selectDeep tree select others (path.child name)) :
    selectDeep tree select (levels + 1) path = selectDeep tree select (others + 1) path := by
  have sameInside : ((tree.namesIn place).filter fun name =>
        tree.contentAt? (place ++ [name]) = some .directory).mapM
          (selectDeep tree select levels ∘ path.child) =
      ((tree.namesIn place).filter fun name =>
        tree.contentAt? (place ++ [name]) = some .directory).mapM
          (selectDeep tree select others ∘ path.child) :=
    mapM_congr_of_mem fun name member => same name (of_decide_eq_true (List.mem_filter.mp member).2)
  rw [selectDeep_succ, selectDeep_succ, leads.openDirectory_eq]
  by_cases readable : tree.isReadable place = true
  · rw [if_pos readable]
    show select path >>= (fun here => untilDenied (List.mapM _ _ >>= _) >>= _) =
      select path >>= fun here => untilDenied (List.mapM _ _ >>= _) >>= _
    rw [sameInside]
  · rw [if_neg readable]
    rfl

/-- From a directory on, more levels than there are below it select nothing more. -/
theorem selectDeep_add_of_leadsTo (possible : tree.IsPossible) (leads : LeadsTo tree path place)
    (more : Nat) {levels : Nat} (enough : tree.depth ≤ place.length + levels) :
    selectDeep tree select (levels + more + 1) path = selectDeep tree select (levels + 1) path := by
  induction levels generalizing path place with
  | zero =>
      refine selectDeep_congr leads fun name content => ?_
      -- the location of a directory inside would be too long
      have tooDeep := FileTree.length_le_depth content
      rw [List.length_append, List.length_singleton] at tooDeep
      omega
  | succ levels inductionHypothesis =>
      refine selectDeep_congr leads fun name content => ?_
      rw [Nat.add_right_comm levels 1 more]
      rcases mayBeDirectory_child possible leads content with leadsThere | ⟨reason, refused⟩
      · refine inductionHypothesis leadsThere ?_
        rw [List.length_append, List.length_singleton]
        omega
      · rw [selectDeep_succ, selectDeep_succ, openDirectory, refused.2]
        rfl

/-- A search of all levels below a directory looks at all there are. -/
theorem selectDeep_add (possible : tree.IsPossible) (path : Path) (more : Nat) :
    selectDeep tree select (tree.depth + more + 1) path =
      selectDeep tree select (tree.depth + 1) path := by
  cases opened : openDirectory tree path with
  | ok place =>
      obtain ⟨leads, -⟩ := openDirectory_eq_ok_iff.mp opened
      exact selectDeep_add_of_leadsTo possible leads more (Nat.le_add_left tree.depth place.length)
  | error failure =>
      rw [selectDeep_succ, selectDeep_succ, opened]
      rfl

end Pattern

/-- A search that starts at a directory fails, if at all, because a path is refused.  The
paths between two parts of the pattern are directories, so they can be searched too. -/
theorem isRefusal_of_selectFrom (possible : tree.IsPossible) {directoriesOnly : Bool}
    {parts : List GlobPart} (may : MayBeDirectory tree path)
    (failed : selectFrom tree directoriesOnly parts path = .error failure) :
    failure.IsRefusal tree := by
  induction parts generalizing path failure with
  | nil => cases failed
  | cons part rest inductionHypothesis =>
      have later : ∀ found failure,
          ((directoriesOnly || !rest.isEmpty) = true → MayBeDirectory tree found) →
            selectFrom tree directoriesOnly rest found = .error failure → failure.IsRefusal tree := by
        intro found failure mayFound fails
        cases rest with
        | nil => cases fails
        | cons second others => exact inductionHypothesis (mayFound (by simp)) fails
      cases part with
      | exact name =>
          obtain ⟨attempted, -⟩ := untilDenied_eq_error_iff.mp failed
          rcases bind_eq_error_iff.mp attempted with refused | ⟨there, asked, onward⟩
          · split at refused
            · exact isRefusal_of_map_entryAt refused
            · exact isRefusal_of_map_entryAt refused
          · cases there with
            | false => cases onward
            | true =>
                refine later (path.child name) failure (fun only => ?_) onward
                rw [if_pos only] at asked
                exact (.inl (exists_leadsTo_of_isDirectory asked))
      | wildcard pattern => exact isRefusal_of_selectMatching possible may later failed
      | deep =>
          rw [selectFrom, ← fault?_eq_some_iff, fault?_map, fault?_eq_some_iff] at failed
          exact isRefusal_of_selectDeep possible may
            (fun found failure mayFound => later found failure fun _ => mayFound) failed

/-- Applying a pattern to a path fails, if at all, because a path is refused. -/
theorem isRefusal_of_select (possible : tree.IsPossible) {glob : Glob}
    (failed : select tree path glob = .error failure) : failure.IsRefusal tree := by
  rcases bind_eq_error_iff.mp failed with refused | ⟨there, asked, onward⟩
  · exact isRefusal_of_map_entryAt refused
  · cases there with
    | false => cases onward
    | true => exact isRefusal_of_selectFrom possible ((.inl (exists_leadsTo_of_isDirectory asked))) onward

end AddonBindings.Files
