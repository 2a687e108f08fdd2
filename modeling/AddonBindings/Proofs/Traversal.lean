import Mathlib.Data.List.Forall2

/-!
Contract: a list taken through a function that can fail.

Owns: what a traversal gives if every element succeeds, and which failure it
gives otherwise.

Does not own: any function; the traversals of functions, files and declarations
are described where they are used.
-/

namespace AddonBindings.Traversal

variable {α β ε : Type} {f : α → Except ε β}

/-- A traversal succeeds if the first element and the rest do. -/
theorem mapM_cons_eq_ok_iff {first : α} {rest : List α} {values : List β} :
    (first :: rest).mapM f = .ok values ↔
      ∃ value others, f first = .ok value ∧ rest.mapM f = .ok others ∧ values = value :: others := by
  rw [List.mapM_cons]
  cases head : f first with
  | error fault => simp [bind, Except.bind]
  | ok value =>
      cases tail : rest.mapM f with
      | error fault => simp [bind, Except.bind]
      | ok others =>
          simp only [bind, Except.bind, pure, Except.pure, Except.ok.injEq]
          constructor
          · intro same
            exact ⟨value, others, rfl, rfl, same.symm⟩
          · rintro ⟨_, _, rfl, rfl, rfl⟩
            rfl

/-- The values of a successful traversal stand in the places of the elements. -/
theorem mapM_eq_ok_iff_forall₂ {items : List α} {values : List β} :
    items.mapM f = .ok values ↔ List.Forall₂ (fun item value => f item = .ok value) items values := by
  induction items generalizing values with
  | nil => simp [pure, Except.pure, eq_comm]
  | cons first rest inductionHypothesis =>
      rw [mapM_cons_eq_ok_iff, List.forall₂_cons_left_iff]
      constructor
      · rintro ⟨value, others, head, tail, rfl⟩
        exact ⟨value, others, head, inductionHypothesis.mp tail, rfl⟩
      · rintro ⟨value, others, head, tail, rfl⟩
        exact ⟨value, others, head, inductionHypothesis.mpr tail, rfl⟩

theorem mapM_eq_ok_map {items : List α} {g : α → β} (succeeds : ∀ item ∈ items, f item = .ok (g item)) :
    items.mapM f = .ok (items.map g) := by
  rw [mapM_eq_ok_iff_forall₂, List.forall₂_map_right_iff, List.forall₂_same]
  exact succeeds

/-- A look-up that always finds something is mapped. -/
theorem mapM_eq_some_map {items : List α} {find : α → Option β} {g : α → β}
    (finds : ∀ item ∈ items, find item = some (g item)) : items.mapM find = some (items.map g) := by
  induction items with
  | nil => rfl
  | cons first rest inductionHypothesis =>
      have tail := inductionHypothesis (fun item member => finds item (List.mem_cons_of_mem first member))
      rw [List.mapM_cons, finds first List.mem_cons_self, tail]
      rfl

theorem mapM_congr_of_mem {m : Type → Type} [Monad m] [LawfulMonad m] {items : List α}
    {find other : α → m β} (agree : ∀ item ∈ items, find item = other item) :
    items.mapM find = items.mapM other := by
  induction items with
  | nil => rw [List.mapM_nil, List.mapM_nil]
  | cons first rest inductionHypothesis =>
      have tail := inductionHypothesis (fun item member => agree item (List.mem_cons_of_mem first member))
      rw [List.mapM_cons, List.mapM_cons, agree first List.mem_cons_self, tail]

theorem ok_of_mem_of_mapM {items : List α} {values : List β} (succeeded : items.mapM f = .ok values)
    {item : α} (member : item ∈ items) : ∃ value ∈ values, f item = .ok value := by
  induction items generalizing values with
  | nil => simp at member
  | cons first rest inductionHypothesis =>
      obtain ⟨value, others, head, tail, rfl⟩ := mapM_cons_eq_ok_iff.mp succeeded
      rcases List.mem_cons.mp member with rfl | inRest
      · exact ⟨value, by simp, head⟩
      · obtain ⟨found, among, gives⟩ := inductionHypothesis tail inRest
        exact ⟨found, by simp [among], gives⟩

theorem exists_of_mem_of_mapM {items : List α} {values : List β} (succeeded : items.mapM f = .ok values)
    {value : β} (member : value ∈ values) : ∃ item ∈ items, f item = .ok value := by
  induction items generalizing values with
  | nil =>
      cases succeeded
      cases member
  | cons first rest inductionHypothesis =>
      obtain ⟨made, others, head, tail, rfl⟩ := mapM_cons_eq_ok_iff.mp succeeded
      rcases List.mem_cons.mp member with rfl | inOthers
      · exact ⟨first, by simp, head⟩
      · obtain ⟨item, among, gives⟩ := inductionHypothesis tail inOthers
        exact ⟨item, by simp [among], gives⟩

/-- `item` is the first element that fails: all elements `before` it succeed with
`values`. -/
structure FirstFailure (f : α → Except ε β) (items before : List α) (item : α)
    (values : List β) (fault : ε) : Prop where
  split : ∃ later, items = before ++ item :: later
  succeeded : before.mapM f = .ok values
  failed : f item = .error fault

/-- A list has a first failing element, or its traversal succeeds. -/
theorem firstFailure_or_ok (f : α → Except ε β) (items : List α) :
    (∃ before item values fault, FirstFailure f items before item values fault) ∨
      ∃ values, items.mapM f = .ok values := by
  induction items with
  | nil => exact .inr ⟨[], rfl⟩
  | cons first rest inductionHypothesis =>
      cases head : f first with
      | error fault => exact .inl ⟨[], first, [], fault, ⟨rest, rfl⟩, rfl, head⟩
      | ok value =>
          rcases inductionHypothesis with
            ⟨before, item, values, fault, ⟨later, split⟩, succeeded, failed⟩ | ⟨others, tail⟩
          · refine .inl ⟨first :: before, item, value :: values, fault, ⟨later, ?_⟩, ?_, failed⟩
            · rw [split, List.cons_append]
            · exact mapM_cons_eq_ok_iff.mpr ⟨value, values, head, succeeded, rfl⟩
          · exact .inr ⟨value :: others, mapM_cons_eq_ok_iff.mpr ⟨value, others, head, tail, rfl⟩⟩

theorem exists_firstFailure {items : List α} {item : α} (member : item ∈ items) {fault : ε}
    (failed : f item = .error fault) :
    ∃ before item values fault, FirstFailure f items before item values fault := by
  rcases firstFailure_or_ok f items with found | ⟨values, succeeded⟩
  · exact found
  · obtain ⟨value, -, gives⟩ := ok_of_mem_of_mapM succeeded member
    rw [failed] at gives
    cases gives

/-! ## The success of a computation -/

theorem bind_eq_ok_iff {first : Except ε α} {next : α → Except ε β} {answer : β} :
    first >>= next = .ok answer ↔ ∃ value, first = .ok value ∧ next value = .ok answer := by
  cases first with
  | error fault => exact ⟨fun same => (by cases same), fun ⟨_, same, _⟩ => (by cases same)⟩
  | ok value =>
      constructor
      · intro same
        exact ⟨value, rfl, same⟩
      · rintro ⟨_, same, succeeded⟩
        cases same
        exact succeeded

theorem map_eq_ok_iff {g : α → β} {attempt : Except ε α} {answer : β} :
    attempt.map g = .ok answer ↔ ∃ value, attempt = .ok value ∧ g value = answer := by
  cases attempt with
  | error fault => simp [Except.map]
  | ok value => simp [Except.map]

theorem toOption_map {γ : Type} (g : α → γ) (attempt : Except ε α) :
    (attempt.map g).toOption = attempt.toOption.map g := by
  cases attempt <;> rfl

theorem toOption_mapError {δ : Type} (g : ε → δ) (attempt : Except ε α) :
    (attempt.mapError g).toOption = attempt.toOption := by
  cases attempt <;> rfl

theorem toOption_bind {γ : Type} (attempt : Except ε α) (next : α → Except ε γ) :
    (attempt >>= next).toOption = attempt.toOption.bind fun value => (next value).toOption := by
  cases attempt <;> rfl

theorem eq_ok_of_toOption {attempt : Except ε α} {value : α}
    (same : attempt.toOption = some value) : attempt = .ok value := by
  cases attempt with
  | error fault => cases same
  | ok found =>
      cases same
      rfl

theorem ok_of_mapError {δ : Type} {attempt : Except ε α} {g : ε → δ} {value : α}
    (succeeded : attempt.mapError g = .ok value) : attempt = .ok value := by
  cases attempt with
  | error fault => cases succeeded
  | ok found =>
      cases succeeded
      rfl

/-! ## The failure of a computation -/

theorem bind_eq_error_iff {first : Except ε α} {next : α → Except ε β} {fault : ε} :
    first >>= next = .error fault ↔
      first = .error fault ∨ ∃ value, first = .ok value ∧ next value = .error fault := by
  cases first with
  | error found => simp [bind, Except.bind]
  | ok value => simp [bind, Except.bind]

theorem mapError_eq_error_iff {δ : Type} {attempt : Except ε α} {g : ε → δ} {fault : δ} :
    attempt.mapError g = .error fault ↔ ∃ found, attempt = .error found ∧ g found = fault := by
  cases attempt with
  | error found => simp [Except.mapError]
  | ok value => simp [Except.mapError]

/-- The failure, if there is one. -/
def fault? : Except ε α → Option ε
  | .error fault => some fault
  | .ok _ => none

theorem fault?_eq_some_iff {attempt : Except ε α} {fault : ε} :
    fault? attempt = some fault ↔ attempt = .error fault := by
  cases attempt with
  | error found => simp [fault?]
  | ok value => simp [fault?]

theorem fault?_eq_none_iff {attempt : Except ε α} :
    fault? attempt = none ↔ ∃ value, attempt = .ok value := by
  cases attempt with
  | error found => simp [fault?]
  | ok value => simp [fault?]

theorem fault?_map (g : α → β) (attempt : Except ε α) :
    fault? (attempt.map g) = fault? attempt := by
  cases attempt with
  | error found => rfl
  | ok value => rfl

theorem fault?_mapError {δ : Type} (g : ε → δ) (attempt : Except ε α) :
    fault? (attempt.mapError g) = (fault? attempt).map g := by
  cases attempt with
  | error found => rfl
  | ok value => rfl

/-- If a second computation fails in the same way whatever the first gives, the
failure of both in a row is the first there is. -/
theorem fault?_bind {attempt : Except ε α} {next : α → Except ε β} (later : Option ε)
    (fails : ∀ value, fault? (next value) = later) :
    fault? (attempt >>= next) = (fault? attempt).or later := by
  cases attempt with
  | error found => rfl
  | ok value => exact fails value

theorem findSome?_cons_eq_or (find : α → Option β) (first : α) (rest : List α) :
    (first :: rest).findSome? find = (find first).or (rest.findSome? find) := by
  rw [List.findSome?_cons]
  cases find first with
  | none => rfl
  | some found => rfl

theorem fault?_mapM (items : List α) :
    fault? (items.mapM f) = items.findSome? fun item => fault? (f item) := by
  induction items with
  | nil => rfl
  | cons first rest inductionHypothesis =>
      rw [List.mapM_cons, findSome?_cons_eq_or]
      apply fault?_bind
      intro value
      rw [fault?_bind none (fun _ => rfl), inductionHypothesis, Option.or_none]

theorem exists_of_mapM_eq_error {items : List α} {fault : ε} (failed : items.mapM f = .error fault) :
    ∃ item ∈ items, f item = .error fault := by
  rw [← fault?_eq_some_iff, fault?_mapM] at failed
  obtain ⟨item, member, found⟩ := List.exists_of_findSome?_eq_some failed
  exact ⟨item, member, fault?_eq_some_iff.mp found⟩

/-! ## Pairs of elements -/

/-- Elements are related in pairs iff each is related to all that come after it. -/
theorem pairwise_iff_forall_split {R : α → α → Prop} {items : List α} :
    items.Pairwise R ↔
      ∀ before item later, items = before ++ item :: later → ∀ other ∈ later, R item other := by
  constructor
  · rintro related before item later rfl
    exact (List.pairwise_cons.mp (List.pairwise_append.mp related).2.1).1
  · intro related
    induction items with
    | nil => exact .nil
    | cons first rest inductionHypothesis =>
        refine List.pairwise_cons.mpr ⟨related [] first rest rfl, inductionHypothesis ?_⟩
        intro before item later split
        exact related (first :: before) item later (by rw [split, List.cons_append])

/-! ## Look-ups by name -/

/-- With every name once, an entry is found under its name. -/
theorem lookup_eq_some_of_mem {κ : Type} [BEq κ] [LawfulBEq κ] {entries : List (κ × α)}
    (apart : (entries.map Prod.fst).Nodup) {name : κ} {value : α}
    (member : (name, value) ∈ entries) : entries.lookup name = some value := by
  induction entries with
  | nil => cases member
  | cons entry rest inductionHypothesis =>
      rw [List.map_cons, List.nodup_cons] at apart
      rcases List.mem_cons.mp member with rfl | inRest
      · exact List.lookup_cons_self
      · have differs : (name == entry.1) = false := by
          rw [beq_eq_false_iff_ne]
          rintro rfl
          exact apart.1 (List.mem_map.mpr ⟨_, inRest, rfl⟩)
        rw [List.lookup_cons, differs]
        exact inductionHypothesis apart.2 inRest

theorem lookup_eq_none_of_not_mem {entries : List (String × α)} {name : String}
    (fresh : name ∉ entries.map Prod.fst) : entries.lookup name = none := by
  rw [List.lookup_eq_none_iff]
  intro entry member
  rw [bne_iff_ne]
  rintro rfl
  exact fresh (List.mem_map_of_mem member)

end AddonBindings.Traversal
