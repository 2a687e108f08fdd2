import AddonBindings.Proofs.Files.Change
import AddonBindings.Proofs.Files.Destination

/-!
Contract: what changes do to the files.

Owns:
- the effect of writing a file under a free name and of removing an entry;
- that making directories keeps whatever the making of each directory keeps;
- file systems that have grown by directories only, and that making directories comes
  to nothing else, whether it succeeds or fails;
- that a directory that is there already is not made again.

Does not own: the changes of a run, which are in `AddonBindings.Proofs.Output.Writing`.
-/

namespace AddonBindings.Files

variable {α β : Type} {tree changed before middle after : FileTree} {path directory : Path}
  {location place : Location} {bytes : List UInt8}

/-! ## Single changes -/

theorem run_observe (look : FileTree → Except Failure α) (tree : FileTree) :
    (observe look).run.run tree = (look tree, tree) := by
  have read : (get : Change FileTree).run.run tree = (.ok tree, tree) := rfl
  rw [observe, ExceptT.run_bind, StateT.run_bind, read]
  dsimp only [bind]
  cases look tree with
  | ok value => rfl
  | error failure => rfl

theorem run_tryCatch (first : Change α) (handler : Failure → Change α) (tree : FileTree) :
    (tryCatch first handler).run.run tree =
      match first.run.run tree with
      | (.ok value, changed) => (.ok value, changed)
      | (.error failure, changed) => (handler failure).run.run changed := by
  rw [ExceptT.run_tryCatch, StateT.run_bind]
  rcases first.run.run tree with ⟨outcome, changed⟩
  cases outcome with
  | ok value => rfl
  | error failure => rfl

theorem run_bind_observe (look : FileTree → Except Failure α) (next : α → Change β)
    (tree : FileTree) :
    (observe look >>= next).run.run tree =
      match look tree with
      | .ok value => (next value).run.run tree
      | .error failure => (.error failure, tree) := by
  rw [ExceptT.run_bind, StateT.run_bind, run_observe]
  cases look tree with
  | ok value => rfl
  | error failure => rfl

theorem writeFile_of_vacant (leads : locate tree true path = .ok (.vacant location)) :
    (writeFile path bytes).run.run tree = (.ok (), tree.place location (.file bytes)) := by
  rw [writeFile, run_bind_observe, leads]
  rfl

theorem locate_of_writeFile_ok (succeeded : (writeFile path bytes).run.run tree = (.ok (), changed)) :
    ∃ destination, locate tree true path = .ok destination := by
  rw [writeFile, run_bind_observe] at succeeded
  cases located : locate tree true path with
  | ok destination => exact ⟨destination, rfl⟩
  | error failure =>
      rw [located] at succeeded
      cases succeeded

/-- Removing succeeds on what the path leads to, and takes just this away. -/
theorem removeEntry_eq_ok_iff :
    (removeEntry path).run.run tree = (.ok (), changed) ↔
      ∃ location entry, locate tree false path = .ok (.found location entry) ∧
        changed = tree.remove location := by
  rw [removeEntry, run_bind_observe]
  cases locate tree false path with
  | error failure => exact ⟨fun same => (by cases same), fun ⟨_, _, same, _⟩ => (by cases same)⟩
  | ok destination =>
      cases destination with
      | found location entry =>
          constructor
          · intro succeeded
            cases succeeded
            exact ⟨location, entry, rfl, rfl⟩
          · rintro ⟨_, _, same, rfl⟩
            cases same
            rfl
      | vacant location =>
          constructor
          · intro succeeded
            cases succeeded
          · rintro ⟨_, _, same, -⟩
            cases same

/-- Listing succeeds on readable directories, and gives the names in them. -/
theorem readDirectory_eq_ok_iff {names : List String} :
    readDirectory tree path = .ok names ↔
      ∃ place, LeadsTo tree path place ∧ tree.isReadable place = true ∧
        names = tree.namesIn place := by
  rw [readDirectory, Traversal.map_eq_ok_iff]
  simp only [openDirectory_eq_ok_iff, and_assoc, eq_comm (a := names)]

/-- Reading succeeds on readable files, and gives what they hold. -/
theorem readFile_eq_ok_iff :
    readFile tree path = .ok bytes ↔
      ∃ location, locate tree true path = .ok (.found location (.file bytes)) ∧
        tree.isReadable location = true := by
  rw [readFile]
  constructor
  · intro read
    obtain ⟨destination, located, answered⟩ := Traversal.bind_eq_ok_iff.mp read
    split at answered
    · rename_i location entry
      split at answered
      · cases answered
      · rename_i readable
        split at answered
        · cases answered
          exact ⟨location, located, by simpa using readable⟩
        · cases answered
        · cases answered
    · cases answered
  · rintro ⟨location, located, readable⟩
    rw [located]
    exact if_neg (by simp [readable])

/-! ## Growing by directories -/

/-- The file system `after` is well-formed, and is `before` with directories in free
places.  No permission is taken away. -/
structure Grown (before after : FileTree) : Prop where
  wellFormed : after.WellFormed
  working : after.working = before.working
  permits : before.Permits after
  contents : ∀ location, after.contentAt? location = before.contentAt? location ∨
    before.contentAt? location = none ∧ after.contentAt? location = some .directory

namespace Grown

theorem refl (wellFormed : tree.WellFormed) : Grown tree tree :=
  ⟨wellFormed, rfl, .of_eq rfl rfl, fun _ => .inl rfl⟩

theorem isPartOf (grown : Grown before after) : before.IsPartOf after := by
  refine ⟨grown.working.symm, grown.permits, fun location => ?_⟩
  rcases grown.contents location with same | ⟨free, -⟩
  · exact .inl same.symm
  · exact .inr free

theorem keeps_directory (grown : Grown before after)
    (there : before.contentAt? location = some .directory) :
    after.contentAt? location = some .directory := by
  rcases grown.contents location with same | ⟨-, made⟩
  · rw [same, there]
  · exact made

theorem trans (first : Grown before middle) (second : Grown middle after) : Grown before after := by
  refine ⟨second.wellFormed, second.working.trans first.working, first.permits.trans second.permits,
    fun location => ?_⟩
  rcases second.contents location with same | ⟨free, made⟩
  · rw [same]
    exact first.contents location
  · refine .inr ⟨?_, made⟩
    rcases first.contents location with same | ⟨free, -⟩
    · rwa [← same]
    · exact free

end Grown

/-! ## What a change keeps -/

/-- Whether it succeeds or fails, the change keeps what holds of the files. -/
def Change.Keeps (holds : FileTree → Prop) (change : Change α) : Prop :=
  ∀ tree, holds tree → holds (change.run.run tree).2

namespace Change.Keeps

variable {holds : FileTree → Prop}

theorem observe (look : FileTree → Except Failure α) : Keeps holds (observe look) := by
  intro tree held
  rwa [run_observe]

theorem throw (failure : Failure) : Keeps holds (throw failure : Change α) :=
  fun _ held => held

theorem pure (value : α) : Keeps holds (pure value : Change α) :=
  fun _ held => held

theorem bind {first : Change α} {next : α → Change β} (firstKeeps : Keeps holds first)
    (nextKeeps : ∀ value, Keeps holds (next value)) : Keeps holds (first >>= next) := by
  intro tree held
  have heldBetween := firstKeeps tree held
  rw [ExceptT.run_bind, StateT.run_bind]
  rcases ran : first.run.run tree with ⟨outcome, between⟩
  rw [ran] at heldBetween
  cases outcome with
  | error failure => exact heldBetween
  | ok value => exact nextKeeps value between heldBetween

private theorem tryCatch {first : Change α} {handler : Failure → Change α}
    (firstKeeps : Keeps holds first)
    (handlerKeeps : ∀ failure, Keeps holds (handler failure)) :
    Keeps holds (tryCatch first handler) := by
  intro tree held
  have heldBetween := firstKeeps tree held
  rw [run_tryCatch]
  rcases ran : first.run.run tree with ⟨outcome, between⟩
  rw [ran] at heldBetween
  cases outcome with
  | ok value => exact heldBetween
  | error failure => exact handlerKeeps failure between heldBetween

theorem ensureDirectory (makes : Keeps holds (makeDirectory path)) :
    Keeps holds (ensureDirectory path) := by
  refine tryCatch makes fun failure => ?_
  cases failure with
  | nullCharacter => exact throw _
  | refused fault =>
      dsimp only
      split
      · exact throw _
      · refine bind (observe _) fun isThere => ?_
        split
        · exact pure _
        · exact throw _

/-- Directories are only made where the path leads after some of its names. -/
theorem ensureDirectories
    (makes : ∀ names, names <+: path.parts → Keeps holds (makeDirectory ⟨path.anchor, names⟩)) :
    Keeps holds (ensureDirectories path) := by
  -- the recursion goes to the directory above, so the induction is on the number of names
  induction count : path.parts.length generalizing path with
  | zero =>
      have isEmpty : path.parts.isEmpty = true := by simpa using count
      rw [Files.ensureDirectories]
      refine tryCatch (ensureDirectory (makes _ (List.prefix_refl _))) fun failure => ?_
      cases failure with
      | nullCharacter => exact throw _
      | refused fault =>
          dsimp only
          split
          · exact throw _
          · exact throw _
  | succ length inductionHypothesis =>
      have shorter : path.parent.parts.length = length := by
        simp [Path.parent, count]
      have whole := ensureDirectory (makes _ (List.prefix_refl _))
      have above : Keeps holds (Files.ensureDirectories path.parent) :=
        inductionHypothesis
          (fun names front => makes names (front.trans (List.dropLast_prefix path.parts))) shorter
      rw [Files.ensureDirectories]
      refine tryCatch whole fun failure => ?_
      cases failure with
      | nullCharacter => exact throw _
      | refused fault =>
          dsimp only
          split
          · exact throw _
          · split
            · exact throw _
            · exact bind above fun _ => whole

end Change.Keeps

/-- Making a directory comes to nothing, or places it under a free name. -/
theorem makeDirectory_cases (path : Path) (tree : FileTree) :
    ((makeDirectory path).run.run tree).2 = tree ∨
      ∃ location, locate tree false path = .ok (.vacant location) ∧
        ((makeDirectory path).run.run tree).2 = tree.place location .directory := by
  rw [makeDirectory, run_bind_observe]
  cases located : locate tree false path with
  | error failure => exact .inl rfl
  | ok destination =>
      cases destination with
      | found location entry => exact .inl rfl
      | vacant location => exact .inr ⟨location, rfl, rfl⟩

/-- A directory under a free name is one more that the file system has grown by. -/
theorem Grown.placed (working : before.contentAt? before.working = some .directory)
    (grown : Grown before tree) (located : locate tree false path = .ok (.vacant location)) :
    Grown before (tree.place location .directory) := by
  have stillWorking : tree.contentAt? tree.working = some .directory := by
    rw [grown.working]
    exact grown.keeps_directory working
  obtain ⟨parent, name, rfl, isName, directory, free⟩ :=
    stands_of_locate grown.wellFormed stillWorking located
  refine grown.trans ⟨grown.wellFormed.place isName directory free .directory, rfl,
    .place tree _ .directory, fun other => ?_⟩
  by_cases same : other = parent ++ [name]
  · rw [same]
    exact .inr ⟨free, FileTree.contentAt?_place_self tree .directory (by simp)⟩
  · exact .inl (FileTree.contentAt?_place_of_ne tree .directory same)

/-- Whether it succeeds or fails, the change does nothing but make directories in free
places. -/
def Change.OnlyGrows (change : Change α) : Prop :=
  ∀ tree : FileTree, tree.WellFormed → tree.contentAt? tree.working = some .directory →
    Grown tree (change.run.run tree).2

theorem Change.OnlyGrows.ensureDirectories (path : Path) : OnlyGrows (ensureDirectories path) := by
  intro tree wellFormed working
  refine Keeps.ensureDirectories (fun names _ => ?_) tree (.refl wellFormed)
  intro middle grown
  rcases makeDirectory_cases ⟨path.anchor, names⟩ middle with same | ⟨location, located, made⟩
  · rwa [same]
  · rw [made]
    exact grown.placed working located

/-! ## Directories that are there already -/

theorem Reaches.unfollowed {current : Location} {steps : List String} {reached : Leg}
    (reaches : Reaches tree true current steps reached) :
    Reaches tree false current steps reached ∨
      ∃ location target,
        Reaches tree false current steps (.arrived (.found location (.link target))) := by
  induction reaches with
  | stay => exact .inl .stay
  | slash _ inductionHypothesis =>
      exact inductionHypothesis.imp .slash fun ⟨location, target, others⟩ =>
        ⟨location, target, .slash others⟩
  | point searchable _ inductionHypothesis =>
      exact inductionHypothesis.imp (.point searchable) fun ⟨location, target, others⟩ =>
        ⟨location, target, .point searchable others⟩
  | up searchable _ inductionHypothesis =>
      exact inductionHypothesis.imp (.up searchable) fun ⟨location, target, others⟩ =>
        ⟨location, target, .up searchable others⟩
  | directory isName searchable short content _ inductionHypothesis =>
      exact inductionHypothesis.imp (.directory isName searchable short content)
        fun ⟨location, target, others⟩ =>
          ⟨location, target, .directory isName searchable short content others⟩
  | vacant isName searchable short content => exact .inl (.vacant isName searchable short content)
  | file isName searchable short content => exact .inl (.file isName searchable short content)
  | lastLink isName searchable short content _ =>
      exact .inr ⟨_, _, .lastLink isName searchable short content rfl⟩
  | @link current step target rest isName searchable short content _ =>
      cases rest with
      | nil => exact .inr ⟨_, _, .lastLink isName searchable short content rfl⟩
      | cons next others => exact .inl (.link isName searchable short content rfl)

theorem Way.unfollowed {links : Nat} {current : Location} {steps : List String} {entry : Entry}
    (way : Way tree true (.found location entry) links current steps) :
    ∃ location entry, Way tree false (.found location entry) links current steps := by
  induction way with
  | arrived last =>
      rcases last.unfollowed with same | ⟨_, _, atLink⟩
      · exact ⟨_, _, .arrived same⟩
      · exact ⟨_, _, .arrived atLink⟩
  | onward first _ inductionHypothesis =>
      rcases first.unfollowed with same | ⟨_, _, atLink⟩
      · obtain ⟨location, entry, rest⟩ := inductionHypothesis
        exact ⟨location, entry, .onward same rest⟩
      · exact ⟨_, _, .arrived atLink⟩

theorem LeadsTo.locate_unfollowed (leads : LeadsTo tree path place) :
    ∃ location entry, locate tree false path = .ok (.found location entry) := by
  obtain ⟨passable, way⟩ := locate_eq_ok_iff.mp leads
  obtain ⟨location, entry, unfollowed⟩ := way.unfollowed
  exact ⟨location, entry, locate_eq_ok_iff.mpr ⟨passable, unfollowed⟩⟩

theorem LeadsTo.isDirectory_eq (leads : LeadsTo tree path place) :
    isDirectory tree path = .ok true := by
  unfold LeadsTo at leads
  simp [isDirectory, entryAt, leads, Except.map]

/-- A directory that is there is left as it is. -/
theorem LeadsTo.ensureDirectories_eq (leads : LeadsTo tree path place) :
    (ensureDirectories path).run.run tree = (.ok (), tree) := by
  obtain ⟨location, entry, unfollowed⟩ := leads.locate_unfollowed
  have refused : (makeDirectory path).run.run tree = (refusal .entryExists path, tree) := by
    rw [makeDirectory, run_bind_observe, unfollowed]
    exact run_observe _ tree
  have ensured : (ensureDirectory path).run.run tree = (.ok (), tree) := by
    refine (run_tryCatch _ _ tree).trans ?_
    rw [refused]
    show (observe (isDirectory · path) >>= _).run.run tree = _
    rw [run_bind_observe, leads.isDirectory_eq]
    rfl
  rw [ensureDirectories]
  refine (run_tryCatch _ _ tree).trans ?_
  rw [ensured]

end AddonBindings.Files
