import AddonBindings.Files.Reading
import AddonBindings.Proofs.Files.Shape

/-!
Contract: the way that a path takes through a file system.

Owns:
- what one leg of the way can do, step by step;
- the locations that are looked up on the way;
- the law that a path leads to the same entry if nothing on its way has changed;
- the way to a name in a directory, made of the way to the directory and a step.

Does not own: changes, which are in `AddonBindings.Proofs.Files.Effect`.
-/

namespace AddonBindings.Files

variable {tree before after : FileTree} {follow : Bool} {links : Nat} {current : Location}
  {steps : List String}

/-! ## A leg of the way -/

/-- The leg from a directory along the steps ends at `reached`. -/
inductive Reaches (tree : FileTree) (follow : Bool) : Location → List String → Leg → Prop where
  | stay {current : Location} : Reaches tree follow current [] (.arrived (.found current .directory))
  | slash {current : Location} {rest : List String} {reached : Leg}
      (others : Reaches tree follow current rest reached) :
      Reaches tree follow current ("/" :: rest) reached
  | point {current : Location} {rest : List String} {reached : Leg}
      (searchable : tree.isSearchable current = true)
      (others : Reaches tree follow current rest reached) :
      Reaches tree follow current ("." :: rest) reached
  | up {current : Location} {rest : List String} {reached : Leg}
      (searchable : tree.isSearchable current = true)
      (others : Reaches tree follow current.dropLast rest reached) :
      Reaches tree follow current (".." :: rest) reached
  | directory {current : Location} {step : String} {rest : List String} {reached : Leg}
      (isName : IsEntryName step) (searchable : tree.isSearchable current = true)
      (short : step.utf8ByteSize ≤ nameLimit)
      (content : tree.contentAt? (current ++ [step]) = some .directory)
      (others : Reaches tree follow (current ++ [step]) rest reached) :
      Reaches tree follow current (step :: rest) reached
  | vacant {current : Location} {step : String}
      (isName : IsEntryName step) (searchable : tree.isSearchable current = true)
      (short : step.utf8ByteSize ≤ nameLimit)
      (content : tree.contentAt? (current ++ [step]) = none) :
      Reaches tree follow current [step] (.arrived (.vacant (current ++ [step])))
  | file {current : Location} {step : String} {bytes : List UInt8}
      (isName : IsEntryName step) (searchable : tree.isSearchable current = true)
      (short : step.utf8ByteSize ≤ nameLimit)
      (content : tree.contentAt? (current ++ [step]) = some (.file bytes)) :
      Reaches tree follow current [step] (.arrived (.found (current ++ [step]) (.file bytes)))
  | lastLink {current : Location} {step target : String}
      (isName : IsEntryName step) (searchable : tree.isSearchable current = true)
      (short : step.utf8ByteSize ≤ nameLimit)
      (content : tree.contentAt? (current ++ [step]) = some (.link target))
      (unfollowed : follow = false) :
      Reaches tree follow current [step] (.arrived (.found (current ++ [step]) (.link target)))
  | link {current : Location} {step target : String} {rest : List String}
      (isName : IsEntryName step) (searchable : tree.isSearchable current = true)
      (short : step.utf8ByteSize ≤ nameLimit)
      (content : tree.contentAt? (current ++ [step]) = some (.link target))
      (followed : (rest.isEmpty && !follow) = false) :
      Reaches tree follow current (step :: rest)
        (.onward (if target.startsWith "/" then [] else current) (targetSteps target ++ rest))

private theorem leg_slash (rest : List String) :
    leg tree follow current ("/" :: rest) = leg tree follow current rest := by
  rw [leg, if_pos rfl]

theorem leg_of_not_searchable {step : String} (notSlash : step ≠ "/")
    (denied : tree.isSearchable current = false) (rest : List String) :
    leg tree follow current (step :: rest) = .error .noAccess := by
  rw [leg, if_neg notSlash, if_pos (by simp [denied])]

theorem leg_point (searchable : tree.isSearchable current = true) (rest : List String) :
    leg tree follow current ("." :: rest) = leg tree follow current rest := by
  rw [leg, if_neg (by decide), if_neg (by simp [searchable]), if_pos rfl]

private theorem leg_up (searchable : tree.isSearchable current = true) (rest : List String) :
    leg tree follow current (".." :: rest) = leg tree follow current.dropLast rest := by
  rw [leg, if_neg (by decide), if_neg (by simp [searchable]), if_neg (by decide), if_pos rfl]

theorem leg_of_tooLong {step : String} (isName : IsEntryName step)
    (searchable : tree.isSearchable current = true) (tooLong : nameLimit < step.utf8ByteSize)
    (rest : List String) : leg tree follow current (step :: rest) = .error .nameTooLong := by
  rw [leg, if_neg isName.1, if_neg (by simp [searchable]), if_neg isName.2.1, if_neg isName.2.2,
    if_pos tooLong]

/-- What one more name of a way comes to, by what stands under the name. -/
theorem leg_name {step : String} {rest : List String} (isName : IsEntryName step)
    (searchable : tree.isSearchable current = true) (short : step.utf8ByteSize ≤ nameLimit) :
    leg tree follow current (step :: rest) =
      match tree.contentAt? (current ++ [step]) with
      | none =>
          if rest.isEmpty then .ok (.arrived (.vacant (current ++ [step]))) else .error .noEntry
      | some .directory => leg tree follow (current ++ [step]) rest
      | some (.file bytes) =>
          if rest.isEmpty then .ok (.arrived (.found (current ++ [step]) (.file bytes)))
          else .error .notDirectory
      | some (.link target) =>
          if rest.isEmpty && !follow then .ok (.arrived (.found (current ++ [step]) (.link target)))
          else
            .ok (.onward (if target.startsWith "/" then [] else current)
              (targetSteps target ++ rest)) := by
  have short : ¬nameLimit < step.utf8ByteSize := Nat.not_lt.mpr short
  have passed : ¬(!tree.isSearchable current) = true := by simp [searchable]
  rw [leg]
  exact (if_neg isName.1).trans ((if_neg passed).trans ((if_neg isName.2.1).trans
    ((if_neg isName.2.2).trans (if_neg short))))

theorem Reaches.of_leg {reached : Leg} (isReached : leg tree follow current steps = .ok reached) :
    Reaches tree follow current steps reached := by
  induction steps generalizing current with
  | nil =>
      cases isReached
      exact .stay
  | cons step rest inductionHypothesis =>
      by_cases isSlash : step = "/"
      · rw [isSlash, leg_slash] at isReached
        rw [isSlash]
        exact .slash (inductionHypothesis isReached)
      cases searchable : tree.isSearchable current with
      | false =>
          rw [leg_of_not_searchable isSlash searchable] at isReached
          cases isReached
      | true =>
      by_cases isPoint : step = "."
      · rw [isPoint, leg_point searchable] at isReached
        rw [isPoint]
        exact .point searchable (inductionHypothesis isReached)
      by_cases isUp : step = ".."
      · rw [isUp, leg_up searchable] at isReached
        rw [isUp]
        exact .up searchable (inductionHypothesis isReached)
      have isName : IsEntryName step := ⟨isSlash, isPoint, isUp⟩
      by_cases tooLong : nameLimit < step.utf8ByteSize
      · rw [leg_of_tooLong isName searchable tooLong] at isReached
        cases isReached
      have short : step.utf8ByteSize ≤ nameLimit := Nat.le_of_not_lt tooLong
      rw [leg_name isName searchable short] at isReached
      split at isReached
      · rename_i content
        split at isReached
        · rename_i atEnd
          cases isReached
          rw [List.isEmpty_iff.mp atEnd]
          exact .vacant isName searchable short content
        · cases isReached
      · rename_i content
        exact .directory isName searchable short content (inductionHypothesis isReached)
      · rename_i content
        split at isReached
        · rename_i atEnd
          cases isReached
          rw [List.isEmpty_iff.mp atEnd]
          exact .file isName searchable short content
        · cases isReached
      · rename_i content
        split at isReached
        · rename_i atEnd
          cases isReached
          rw [Bool.and_eq_true, List.isEmpty_iff, Bool.not_eq_true'] at atEnd
          rw [atEnd.1]
          exact .lastLink isName searchable short content atEnd.2
        · rename_i notAtEnd
          cases isReached
          exact .link isName searchable short content (by simpa using notAtEnd)

private theorem leg_eq_ok_iff {reached : Leg} :
    leg tree follow current steps = .ok reached ↔ Reaches tree follow current steps reached := by
  refine ⟨.of_leg, fun reaches => ?_⟩
  induction reaches with
  | stay => rfl
  | slash _ inductionHypothesis => rw [leg_slash, inductionHypothesis]
  | point searchable _ inductionHypothesis => rw [leg_point searchable, inductionHypothesis]
  | up searchable _ inductionHypothesis => rw [leg_up searchable, inductionHypothesis]
  | directory isName searchable short content _ inductionHypothesis =>
      rw [leg_name isName searchable short, content]
      exact inductionHypothesis
  | vacant isName searchable short content => rw [leg_name isName searchable short, content]; rfl
  | file isName searchable short content => rw [leg_name isName searchable short, content]; rfl
  | lastLink isName searchable short content unfollowed =>
      rw [leg_name isName searchable short, content, unfollowed]
      rfl
  | link isName searchable short content followed =>
      rw [leg_name isName searchable short, content]
      exact if_neg (by simp [followed])

/-! ## The locations on the way -/

/-- The locations that are looked up before the first link is followed. -/
def legStations (tree : FileTree) (current : Location) : List String → List Location
  | [] => []
  | step :: rest =>
      if step = "/" then legStations tree current rest
      else if step = "." then legStations tree current rest
      else if step = ".." then legStations tree current.dropLast rest
      else if nameLimit < step.utf8ByteSize then []
      else
        (current ++ [step]) ::
          (if tree.contentAt? (current ++ [step]) = some .directory then
            legStations tree (current ++ [step]) rest
          else [])

private theorem legStations_slash (rest : List String) :
    legStations tree current ("/" :: rest) = legStations tree current rest := by
  rw [legStations, if_pos rfl]

private theorem legStations_point (rest : List String) :
    legStations tree current ("." :: rest) = legStations tree current rest := by
  rw [legStations, if_neg (by decide), if_pos rfl]

private theorem legStations_up (rest : List String) :
    legStations tree current (".." :: rest) = legStations tree current.dropLast rest := by
  rw [legStations, if_neg (by decide), if_neg (by decide), if_pos rfl]

private theorem legStations_name {step : String} (isName : IsEntryName step)
    (short : step.utf8ByteSize ≤ nameLimit) (rest : List String) :
    legStations tree current (step :: rest) =
      (current ++ [step]) ::
        if tree.contentAt? (current ++ [step]) = some .directory then
          legStations tree (current ++ [step]) rest
        else [] := by
  rw [legStations, if_neg isName.1, if_neg isName.2.1, if_neg isName.2.2,
    if_neg (Nat.not_lt.mpr short)]

/-- The locations that are looked up on the way, through at most `links` links. -/
def walkStations (tree : FileTree) (follow : Bool) :
    Nat → Location → List String → List Location
  | 0, current, steps => legStations tree current steps
  | links + 1, current, steps =>
      legStations tree current steps ++
        match leg tree follow current steps with
        | .ok (.onward base further) => walkStations tree follow links base further
        | _ => []

def FileTree.startOf (tree : FileTree) (path : Path) : Location :=
  if path.isAbsolute then [] else tree.working

/-- The locations that are looked up on the way of a path, its end among them. -/
def stations (tree : FileTree) (follow : Bool) (path : Path) : List Location :=
  walkStations tree follow linkLimit (tree.startOf path) path.wayPoints

def Leg.isVacant : Leg → Bool
  | .arrived (.vacant _) => true
  | .arrived (.found _ _) | .onward _ _ => false

/-- The way from a directory, through at most `links` links, leads to `destination`. -/
inductive Way (tree : FileTree) (follow : Bool) (destination : Destination) :
    Nat → Location → List String → Prop where
  | arrived {links : Nat} {current : Location} {steps : List String}
      (last : Reaches tree follow current steps (.arrived destination)) :
      Way tree follow destination links current steps
  | onward {links : Nat} {current base : Location} {steps further : List String}
      (first : Reaches tree follow current steps (.onward base further))
      (rest : Way tree follow destination links base further) :
      Way tree follow destination (links + 1) current steps

theorem walk_eq_ok_iff {destination : Destination} :
    walk tree follow links current steps = .ok destination ↔
      Way tree follow destination links current steps := by
  constructor
  · intro walked
    induction links generalizing current steps with
    | zero =>
        rw [walk] at walked
        split at walked
        · cases walked
        · rename_i last
          cases walked
          exact .arrived (.of_leg last)
        · cases walked
    | succ links inductionHypothesis =>
        rw [walk] at walked
        split at walked
        · cases walked
        · rename_i last
          cases walked
          exact .arrived (.of_leg last)
        · rename_i first
          exact .onward (.of_leg first) (inductionHypothesis walked)
  · intro way
    induction way with
    | arrived last => rw [walk, leg_eq_ok_iff.mpr last]
    | onward first _ inductionHypothesis =>
        rw [walk, leg_eq_ok_iff.mpr first, ← inductionHypothesis]

/-! ## Ways that lead to the same entry -/

private theorem kept_first {location : Location} {entry : Entry} {more others : List Location}
    (kept : ∀ station ∈ location :: more, station ∈ location :: others →
      before.contentAt? station = after.contentAt? station ∨ before.contentAt? station = none)
    (content : before.contentAt? location = some entry) :
    after.contentAt? location = some entry := by
  rcases kept location List.mem_cons_self List.mem_cons_self with same | gone
  · rw [← same, content]
  · rw [gone] at content
    cases content

theorem Reaches.transfer {reached : Leg}
    (reaches : Reaches before follow current steps reached) (there : reached.isVacant = false)
    (permits : before.Permits after)
    (kept : ∀ location ∈ legStations before current steps,
      location ∈ legStations after current steps →
        before.contentAt? location = after.contentAt? location ∨
          before.contentAt? location = none) : Reaches after follow current steps reached := by
  induction reaches with
  | stay => exact .stay
  | slash _ inductionHypothesis =>
      rw [legStations_slash, legStations_slash] at kept
      exact .slash (inductionHypothesis there kept)
  | point searchable _ inductionHypothesis =>
      rw [legStations_point, legStations_point] at kept
      exact .point (permits.searchable _ searchable) (inductionHypothesis there kept)
  | up searchable _ inductionHypothesis =>
      rw [legStations_up, legStations_up] at kept
      exact .up (permits.searchable _ searchable) (inductionHypothesis there kept)
  | directory isName searchable short content _ inductionHypothesis =>
      rw [legStations_name isName short, legStations_name isName short] at kept
      have keptContent := kept_first kept content
      rw [if_pos content, if_pos keptContent] at kept
      refine .directory isName (permits.searchable _ searchable) short keptContent
        (inductionHypothesis there ?_)
      exact fun location inBefore inAfter =>
        kept location (List.mem_cons_of_mem _ inBefore) (List.mem_cons_of_mem _ inAfter)
  | vacant => cases there
  | file isName searchable short content =>
      rw [legStations_name isName short, legStations_name isName short] at kept
      exact .file isName (permits.searchable _ searchable) short (kept_first kept content)
  | lastLink isName searchable short content unfollowed =>
      rw [legStations_name isName short, legStations_name isName short] at kept
      exact .lastLink isName (permits.searchable _ searchable) short (kept_first kept content)
        unfollowed
  | link isName searchable short content followed =>
      rw [legStations_name isName short, legStations_name isName short] at kept
      exact .link isName (permits.searchable _ searchable) short (kept_first kept content) followed

private theorem mem_walkStations_of_mem_legStations {station : Location}
    (member : station ∈ legStations tree current steps) :
    station ∈ walkStations tree follow links current steps := by
  cases links with
  | zero => exact member
  | succ links => exact List.mem_append_left _ member

/-- A way that ends at an entry is still there after a change, if what stands on it
is kept and nothing is forbidden. -/
theorem Way.transfer {location : Location} {entry : Entry}
    (way : Way before follow (.found location entry) links current steps)
    (permits : before.Permits after)
    (kept : ∀ station ∈ walkStations before follow links current steps,
      station ∈ walkStations after follow links current steps →
        before.contentAt? station = after.contentAt? station ∨
          before.contentAt? station = none) :
    Way after follow (.found location entry) links current steps := by
  induction way with
  | arrived last =>
      refine .arrived (last.transfer rfl permits ?_)
      intro station inBefore inAfter
      exact kept station (mem_walkStations_of_mem_legStations inBefore)
        (mem_walkStations_of_mem_legStations inAfter)
  | onward first _ inductionHypothesis =>
      have same := first.transfer rfl permits fun station inBefore inAfter => kept station
        (mem_walkStations_of_mem_legStations inBefore)
        (mem_walkStations_of_mem_legStations inAfter)
      refine .onward same (inductionHypothesis ?_)
      intro station inBefore inAfter
      apply kept station
      · rw [walkStations, leg_eq_ok_iff.mpr first]
        exact List.mem_append_right _ inBefore
      · rw [walkStations, leg_eq_ok_iff.mpr same]
        exact List.mem_append_right _ inAfter

/-! ## What stands on the way -/

theorem Reaches.content_of_mem {reached : Leg} {station : Location}
    (reaches : Reaches tree follow current steps reached)
    (member : station ∈ legStations tree current steps) :
    tree.contentAt? station = some .directory ∨
      (∃ target, tree.contentAt? station = some (.link target)) ∨
        (∃ entry, reached = .arrived (.found station entry)) ∨ reached.isVacant = true := by
  induction reaches with
  | stay => cases member
  | slash _ inductionHypothesis =>
      rw [legStations_slash] at member
      exact inductionHypothesis member
  | point _ _ inductionHypothesis =>
      rw [legStations_point] at member
      exact inductionHypothesis member
  | up _ _ inductionHypothesis =>
      rw [legStations_up] at member
      exact inductionHypothesis member
  | directory isName _ short content _ inductionHypothesis =>
      rw [legStations_name isName short, if_pos content] at member
      rcases List.mem_cons.mp member with rfl | inRest
      · exact .inl content
      · exact inductionHypothesis inRest
  | vacant => exact .inr (.inr (.inr rfl))
  | file isName _ short content =>
      rw [legStations_name isName short, if_neg (by simp [content]), List.mem_singleton] at member
      rw [member]
      exact .inr (.inr (.inl ⟨_, rfl⟩))
  | lastLink isName _ short content _ =>
      rw [legStations_name isName short, if_neg (by simp [content]), List.mem_singleton] at member
      rw [member]
      exact .inr (.inl ⟨_, content⟩)
  | link isName _ short content _ =>
      rw [legStations_name isName short, if_neg (by simp [content]), List.mem_singleton] at member
      rw [member]
      exact .inr (.inl ⟨_, content⟩)

/-- Before its end, a way that leads to an entry only passes directories and links. -/
theorem Way.content_of_mem_stations {location station : Location} {entry : Entry}
    (way : Way tree follow (.found location entry) links current steps)
    (member : station ∈ walkStations tree follow links current steps) :
    tree.contentAt? station = some .directory ∨
      (∃ target, tree.contentAt? station = some (.link target)) ∨ station = location := by
  induction way with
  | @arrived links current steps last =>
      have inLeg : station ∈ legStations tree current steps := by
        cases links with
        | zero => exact member
        | succ links =>
            rw [walkStations, leg_eq_ok_iff.mpr last] at member
            simpa using member
      rcases last.content_of_mem inLeg with
        directory | link | ⟨entry, atEnd⟩ | vacant
      · exact .inl directory
      · exact .inr (.inl link)
      · cases atEnd
        exact .inr (.inr rfl)
      · cases vacant
  | onward first _ inductionHypothesis =>
      rw [walkStations, leg_eq_ok_iff.mpr first] at member
      rcases List.mem_append.mp member with inLeg | inRest
      · rcases first.content_of_mem inLeg with
          directory | link | ⟨entry, atEnd⟩ | vacant
        · exact .inl directory
        · exact .inr (.inl link)
        · cases atEnd
        · cases vacant
      · exact inductionHypothesis inRest

/-! ## A name in a directory -/

private theorem leg_append {more : List String} (filled : more ≠ []) :
    leg tree follow current (steps ++ more) =
      match leg tree true current steps with
      | .error reason => .error reason
      | .ok (.onward base further) => .ok (.onward base (further ++ more))
      | .ok (.arrived (.found location .directory)) => leg tree follow location more
      | .ok (.arrived (.found _ _)) => .error .notDirectory
      | .ok (.arrived (.vacant _)) => .error .noEntry := by
  induction steps generalizing current with
  | nil => rfl
  | cons step rest inductionHypothesis =>
      have goesOn : (rest ++ more).isEmpty = false := by simp [filled]
      rw [List.cons_append]
      by_cases isSlash : step = "/"
      · rw [isSlash, leg_slash, leg_slash, inductionHypothesis]
      cases searchable : tree.isSearchable current with
      | false =>
          rw [leg_of_not_searchable isSlash searchable, leg_of_not_searchable isSlash searchable]
      | true =>
      by_cases isPoint : step = "."
      · rw [isPoint, leg_point searchable, leg_point searchable, inductionHypothesis]
      by_cases isUp : step = ".."
      · rw [isUp, leg_up searchable, leg_up searchable, inductionHypothesis]
      have isName : IsEntryName step := ⟨isSlash, isPoint, isUp⟩
      by_cases tooLong : nameLimit < step.utf8ByteSize
      · rw [leg_of_tooLong isName searchable tooLong, leg_of_tooLong isName searchable tooLong]
      have short := Nat.le_of_not_lt tooLong
      rw [leg_name isName searchable short, leg_name isName searchable short, goesOn]
      cases content : tree.contentAt? (current ++ [step]) with
      | none => cases rest.isEmpty <;> rfl
      | some entry =>
          cases entry with
          | directory => exact inductionHypothesis
          | file bytes => cases rest.isEmpty <;> rfl
          | link target => simp [List.append_assoc]

/-- From a directory on, the way goes on as it does from there. -/
theorem Way.walk_append {more : List String} (filled : more ≠ []) {place : Location}
    (way : Way tree true (.found place .directory) links current steps) :
    ∃ left, walk tree follow links current (steps ++ more) = walk tree follow left place more := by
  induction way with
  | @arrived links current steps last =>
      refine ⟨links, ?_⟩
      cases links with
      | zero => rw [walk, walk, leg_append filled, leg_eq_ok_iff.mpr last]
      | succ links => rw [walk, walk, leg_append filled, leg_eq_ok_iff.mpr last]
  | onward first _ inductionHypothesis =>
      obtain ⟨left, same⟩ := inductionHypothesis
      refine ⟨left, ?_⟩
      rw [walk, leg_append filled, leg_eq_ok_iff.mpr first, ← same]

/-- A way that goes on leads to a directory first. -/
theorem Way.exists_directory {more : List String} (filled : more ≠ [])
    {destination : Destination} (way : Way tree follow destination links current (steps ++ more)) :
    ∃ place, Way tree true (.found place .directory) links current steps := by
  generalize isWhole : steps ++ more = whole at way
  induction way generalizing steps with
  | arrived last =>
      rw [← isWhole, ← leg_eq_ok_iff, leg_append filled] at last
      split at last
      · cases last
      · cases last
      · rename_i front
        exact ⟨_, .arrived (.of_leg front)⟩
      · cases last
      · cases last
  | onward first _ inductionHypothesis =>
      rw [← isWhole, ← leg_eq_ok_iff, leg_append filled] at first
      split at first
      · cases first
      · rename_i front
        cases first
        obtain ⟨place, rest⟩ := inductionHypothesis rfl
        exact ⟨place, .onward (.of_leg front) rest⟩
      · rename_i front
        exact ⟨_, .arrived (.of_leg front)⟩
      · cases first
      · cases first

end AddonBindings.Files
