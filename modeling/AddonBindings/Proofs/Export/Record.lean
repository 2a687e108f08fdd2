import AddonBindings.Proofs.Boundary.Classification
import AddonBindings.Proofs.Export.Extraction
import Mathlib.Data.List.Forall2

/-!
Contract: the record of a function, read off its signature.

Owns:
- the flattened list of what a list of parameters or results declares;
- the precedence of the reasons for which a signature is refused;
- the capstone: when there is a record, what it says, and which failure stands in
  its place otherwise.

Does not own: which functions of a file are recorded, which is in
`AddonBindings.Proofs.Export.Extraction`.
-/

namespace AddonBindings

open Export Go Traversal

/-! ## What a list declares -/

/-- One parameter or one result: its name, if it has one, and its type. -/
structure Go.Slot where
  name : Option String
  type : TypeSyntax
deriving DecidableEq, Repr

/-- A declaration without names declares one slot. -/
def Go.ParameterItem.slots : ParameterItem → List Slot
  | declared [] type => [⟨none, type⟩]
  | declared names type => names.map fun name => ⟨some name, type⟩
  | variadic name type => [⟨name, type⟩]
  | comment _ => []

/-- The slots of all declarations, in source order. -/
def Go.slotsOf (items : List ParameterItem) : List Slot :=
  items.flatMap ParameterItem.slots

theorem Go.slotsOf_cons (item : ParameterItem) (rest : List ParameterItem) :
    slotsOf (item :: rest) = item.slots ++ slotsOf rest :=
  List.flatMap_cons

theorem Go.ParameterItem.length_slots (item : ParameterItem) :
    item.slots.length = resultCount item := by
  cases item with
  | declared names type =>
      cases names with
      | nil => rfl
      | cons first others =>
          show ((first :: others).map _).length = max 1 (first :: others).length
          rw [List.length_map, List.length_cons]
          omega
  | variadic name type => rfl
  | comment text => rfl

theorem Go.length_slotsOf (items : List ParameterItem) : (slotsOf items).length = countResults items := by
  induction items with
  | nil => rfl
  | cons item rest inductionHypothesis =>
      rw [slotsOf_cons, List.length_append, ParameterItem.length_slots, inductionHypothesis,
        countResults]

/-! ## What a record makes of it -/

/-- The parameter for the slot at a position, counted from zero in the flattened list. -/
structure Go.Slot.Gives (slot : Slot) (position : Nat) (parameter : Parameter) : Prop where
  name : parameter.name = slot.name.getD ("arg" ++ toString position)
  type : ∃ boundary, slot.type.expression.CrossesAs boundary ∧ parameter.type = some boundary

inductive Go.ResultSyntax.Gives : ResultSyntax → Option BoundaryType → Prop
  | absent : Gives .absent none
  | single {type : TypeSyntax} {boundary : BoundaryType}
      (crosses : type.expression.CrossesAs boundary) : Gives (.single type) (some boundary)
  | empty {items : List ParameterItem} (nothing : slotsOf items = []) : Gives (.listed items) none
  | only {items : List ParameterItem} {slot : Slot} {boundary : BoundaryType}
      (one : slotsOf items = [slot]) (crosses : slot.type.expression.CrossesAs boundary) :
      Gives (.listed items) (some boundary)

namespace Export

private theorem boundaryType_eq_ok_iff {type : TypeSyntax} {boundary : BoundaryType} :
    boundaryType type = .ok boundary ↔ type.expression.CrossesAs boundary := by
  rw [← boundary_eq_ok_iff, boundaryType]
  constructor
  · exact ok_of_mapError
  · intro mapped
    rw [mapped]
    rfl

/-- Declared names do not depend on their positions. -/
theorem gives_names {type : TypeSyntax} {boundary : BoundaryType}
    (crosses : type.expression.CrossesAs boundary) (before : Nat) (names : List String) :
    List.Forall₂ (fun placed => placed.1.Gives placed.2)
      ((names.map fun name => (⟨some name, type⟩ : Slot)).zipIdx before)
      (names.map fun name => ⟨name, some boundary⟩) := by
  induction names generalizing before with
  | nil => exact .nil
  | cons first rest inductionHypothesis =>
      exact .cons ⟨rfl, boundary, crosses, rfl⟩ (inductionHypothesis (before + 1))

private theorem gives_declaredParameters {type : TypeSyntax} {boundary : BoundaryType}
    (crosses : type.expression.CrossesAs boundary) (before : Nat) (names : List String) :
    List.Forall₂ (fun placed => placed.1.Gives placed.2)
      ((ParameterItem.declared names type).slots.zipIdx before)
      (declaredParameters before names boundary) := by
  cases names with
  | nil => exact .cons ⟨rfl, boundary, crosses, rfl⟩ .nil
  | cons first rest => exact gives_names crosses before (first :: rest)

/-- The accumulator of the code is the position in the flattened list: it grows by the
slots of each declaration that is read. -/
theorem gives_parametersAfter {before : Nat} {items : List ParameterItem}
    {parameters : List Parameter} (read : parametersAfter before items = .ok parameters) :
    List.Forall₂ (fun placed => placed.1.Gives placed.2) ((slotsOf items).zipIdx before)
      parameters := by
  induction items generalizing before parameters with
  | nil =>
      cases read
      exact .nil
  | cons item rest inductionHypothesis =>
      cases item with
      | comment text => exact inductionHypothesis read
      | variadic name type => cases read
      | declared names type =>
          rw [parametersAfter, bind_eq_ok_iff] at read
          obtain ⟨boundary, mapped, read⟩ := read
          obtain ⟨others, readOthers, same⟩ := bind_eq_ok_iff.mp read
          cases same
          have crosses := boundaryType_eq_ok_iff.mp mapped
          have front := gives_declaredParameters crosses before names
          have grown : (declaredParameters before names boundary).length =
              (ParameterItem.declared names type).slots.length := by
            rw [← front.length_eq, List.length_zipIdx]
          rw [grown] at readOthers
          rw [slotsOf_cons, List.zipIdx_append]
          exact List.rel_append front (inductionHypothesis readOthers)

/-- With at most one slot, the first item that is no comment declares it. -/
theorem slotsOf_of_firstResult {items : List ParameterItem} {given : Option BoundaryType}
    (few : (slotsOf items).length ≤ 1) (read : firstResult items = .ok given) :
    (slotsOf items = [] ∧ given = none) ∨
      ∃ slot boundary, slotsOf items = [slot] ∧ slot.type.expression.CrossesAs boundary ∧
        given = some boundary := by
  induction items with
  | nil =>
      cases read
      exact .inl ⟨rfl, rfl⟩
  | cons item rest inductionHypothesis =>
      cases item with
      | comment text => exact inductionHypothesis few read
      | variadic name type => cases read
      | declared names type =>
          rw [firstResult, map_eq_ok_iff] at read
          obtain ⟨boundary, mapped, rfl⟩ := read
          have crosses := boundaryType_eq_ok_iff.mp mapped
          rw [slotsOf_cons, List.length_append] at few
          have one : 1 ≤ (ParameterItem.declared names type).slots.length := by
            rw [ParameterItem.length_slots]
            exact Nat.le_max_left 1 names.length
          -- the declaration takes the only slot, so nothing behind it declares one
          have noOther : slotsOf rest = [] := List.eq_nil_of_length_eq_zero (by omega)
          rw [slotsOf_cons, noOther, List.append_nil]
          cases names with
          | nil => exact .inr ⟨_, boundary, rfl, crosses, rfl⟩
          | cons name others =>
              cases others with
              | nil => exact .inr ⟨_, boundary, rfl, crosses, rfl⟩
              | cons second more => exact absurd few (by simp [ParameterItem.slots]; omega)

private theorem gives_result {given : ResultSyntax} {recorded : Option BoundaryType}
    (read : result given = .ok recorded) : given.Gives recorded := by
  cases given with
  | absent =>
      cases read
      exact .absent
  | single type =>
      rw [result, map_eq_ok_iff] at read
      obtain ⟨boundary, mapped, rfl⟩ := read
      exact .single (boundaryType_eq_ok_iff.mp mapped)
  | listed items =>
      rw [result] at read
      by_cases several : 1 < countResults items
      · simp only [if_pos several] at read
        cases read
      · simp only [if_neg several] at read
        have few : (slotsOf items).length ≤ 1 := by
          rw [length_slotsOf]
          omega
        rcases slotsOf_of_firstResult few read with ⟨nothing, rfl⟩ | ⟨slot, boundary, one, crosses, rfl⟩
        · exact .empty nothing
        · exact .only one crosses

end Export

/-! ## Which reason comes first -/

namespace Go

/-- Why a single item is refused.  A variadic one is refused whatever its type is. -/
inductive ParameterItem.RefusedFor : ParameterItem → SignatureFault → Prop
  | variadic (name : Option String) (type : TypeSyntax) :
      RefusedFor (.variadic name type) (.unsupportedType ("..." ++ type.text))
  | unsupported (names : List String) {type : TypeSyntax}
      (unsupported : ¬ type.expression.IsSupported) :
      RefusedFor (.declared names type) (.unsupportedType type.expression.raw)

/-- Why a result part is refused.  Several results are refused as such, whatever their
types are. -/
inductive ResultSyntax.RefusedFor : ResultSyntax → SignatureFault → Prop
  | unsupported {type : TypeSyntax} (unsupported : ¬ type.expression.IsSupported) :
      RefusedFor (.single type) (.unsupportedType type.expression.raw)
  | several {items : List ParameterItem} (several : 1 < (slotsOf items).length) :
      RefusedFor (.listed items) (.multipleResults (slotsOf items).length)
  | only {items : List ParameterItem} {item : ParameterItem} {refusal : SignatureFault}
      (few : (slotsOf items).length ≤ 1) (member : item ∈ items) (refused : item.RefusedFor refusal) :
      RefusedFor (.listed items) refusal

/-- Why a signature is refused: for the first refused item of its parameters, or else
for its result. -/
inductive FunctionDeclaration.RefusedFor (declaration : FunctionDeclaration) :
    SignatureFault → Prop
  | parameter {earlier later : List ParameterItem} {item : ParameterItem} {refusal : SignatureFault}
      (split : declaration.parameters = earlier ++ item :: later)
      (supported : ∀ other ∈ earlier, other.IsSupported) (refused : item.RefusedFor refusal) :
      declaration.RefusedFor refusal
  | result {refusal : SignatureFault} (supported : ∀ item ∈ declaration.parameters, item.IsSupported)
      (refused : declaration.result.RefusedFor refusal) : declaration.RefusedFor refusal

theorem TypeSyntax.refusal?_eq_some_iff {type : TypeSyntax} {refusal : SignatureFault} :
    type.refusal? = some refusal ↔
      ¬ type.expression.IsSupported ∧ refusal = .unsupportedType type.expression.raw := by
  rw [refusal?]
  by_cases supported : type.expression.IsSupported
  · simp [supported]
  · simp [supported, eq_comm]

theorem ParameterItem.refusal?_eq_some_iff {item : ParameterItem} {refusal : SignatureFault} :
    item.refusal? = some refusal ↔ item.RefusedFor refusal := by
  constructor
  · intro refused
    cases item with
    | declared names type =>
        obtain ⟨unsupported, rfl⟩ := TypeSyntax.refusal?_eq_some_iff.mp refused
        exact .unsupported names unsupported
    | variadic name type =>
        cases refused
        exact .variadic name type
    | comment text => cases refused
  · intro refused
    cases refused with
    | variadic name type => rfl
    | unsupported names unsupported =>
        exact TypeSyntax.refusal?_eq_some_iff.mpr ⟨unsupported, rfl⟩

theorem ParameterItem.findSome?_refusal?_eq_some_iff {items : List ParameterItem}
    {refusal : SignatureFault} :
    items.findSome? refusal? = some refusal ↔
      ∃ earlier item later, items = earlier ++ item :: later ∧
        (∀ other ∈ earlier, other.IsSupported) ∧ item.RefusedFor refusal := by
  rw [List.findSome?_eq_some_iff]
  constructor
  · rintro ⟨earlier, item, later, split, refused, supported⟩
    refine ⟨earlier, item, later, split, ?_, refusal?_eq_some_iff.mp refused⟩
    intro other member
    exact refusal?_eq_none_iff.mp (supported other member)
  · rintro ⟨earlier, item, later, split, supported, refused⟩
    refine ⟨earlier, item, later, split, refusal?_eq_some_iff.mpr refused, ?_⟩
    intro other member
    exact refusal?_eq_none_iff.mpr (supported other member)

theorem ParameterItem.RefusedFor.slots_pos {item : ParameterItem} {refusal : SignatureFault}
    (refused : item.RefusedFor refusal) : 1 ≤ item.slots.length := by
  rw [ParameterItem.length_slots]
  cases refused with
  | variadic name type => exact Nat.le_refl 1
  | unsupported names unsupported => exact Nat.le_max_left 1 names.length

/-- With at most one slot, nothing in front of a refused item is refused. -/
theorem ParameterItem.supported_of_few {earlier later : List ParameterItem} {item : ParameterItem}
    {refusal : SignatureFault} (few : (slotsOf (earlier ++ item :: later)).length ≤ 1)
    (refused : item.RefusedFor refusal) : ∀ other ∈ earlier, other.IsSupported := by
  have taken := refused.slots_pos
  rw [slotsOf, List.flatMap_append, List.flatMap_cons, List.length_append, List.length_append] at few
  have nothing : countResults earlier = 0 := by
    rw [← length_slotsOf, slotsOf]
    omega
  rw [← findSome?_refusal?_eq_none_iff]
  exact findSome?_refusal?_of_countResults_eq_zero nothing

theorem ResultSyntax.refusal?_eq_some_iff {given : ResultSyntax} {refusal : SignatureFault} :
    given.refusal? = some refusal ↔ given.RefusedFor refusal := by
  constructor
  · intro refused
    cases given with
    | absent => cases refused
    | single type =>
        obtain ⟨unsupported, rfl⟩ := TypeSyntax.refusal?_eq_some_iff.mp refused
        exact .unsupported unsupported
    | listed items =>
        rw [refusal?, ← length_slotsOf] at refused
        by_cases few : (slotsOf items).length ≤ 1
        · rw [if_pos few, ParameterItem.findSome?_refusal?_eq_some_iff] at refused
          obtain ⟨earlier, item, later, rfl, -, refused⟩ := refused
          exact .only few (by simp) refused
        · rw [if_neg few] at refused
          cases refused
          exact .several (Nat.lt_of_not_le few)
  · intro refused
    cases refused with
    | unsupported unsupported => exact TypeSyntax.refusal?_eq_some_iff.mpr ⟨unsupported, rfl⟩
    | several several =>
        rw [refusal?, ← length_slotsOf, if_neg (Nat.not_le_of_lt several)]
    | only few member refused =>
        obtain ⟨earlier, later, rfl⟩ := List.append_of_mem member
        rw [refusal?, ← length_slotsOf, if_pos few, ParameterItem.findSome?_refusal?_eq_some_iff]
        exact ⟨earlier, _, later, rfl, ParameterItem.supported_of_few few refused, refused⟩

theorem FunctionDeclaration.refusal?_eq_some_iff {declaration : FunctionDeclaration}
    {refusal : SignatureFault} :
    declaration.refusal? = some refusal ↔ declaration.RefusedFor refusal := by
  rw [refusal?, Option.or_eq_some_iff]
  constructor
  · rintro (refused | ⟨supported, refused⟩)
    · obtain ⟨earlier, item, later, split, supported, refused⟩ :=
        ParameterItem.findSome?_refusal?_eq_some_iff.mp refused
      exact .parameter split supported refused
    · exact .result (ParameterItem.findSome?_refusal?_eq_none_iff.mp supported)
        (ResultSyntax.refusal?_eq_some_iff.mp refused)
  · intro refused
    cases refused with
    | parameter split supported refused =>
        exact .inl (ParameterItem.findSome?_refusal?_eq_some_iff.mpr
          ⟨_, _, _, split, supported, refused⟩)
    | result supported refused =>
        exact .inr ⟨ParameterItem.findSome?_refusal?_eq_none_iff.mpr supported,
          ResultSyntax.refusal?_eq_some_iff.mpr refused⟩

end Go

/-! ## The record -/

namespace Export

structure ReadsSignature (declaration : FunctionDeclaration) (function : ExportedFunction) :
    Prop where
  parameters : List.Forall₂ (fun placed => placed.1.Gives placed.2)
    (slotsOf declaration.parameters).zipIdx function.parameters
  result : declaration.result.Gives function.result

theorem readsSignature_of_signature {declaration : FunctionDeclaration}
    {function : ExportedFunction}
    (read : signature declaration = .ok (function.parameters, function.result)) :
    ReadsSignature declaration function := by
  obtain ⟨taken, readParameters, read⟩ := bind_eq_ok_iff.mp read
  obtain ⟨given, readResult, same⟩ := bind_eq_ok_iff.mp read
  cases same
  exact ⟨gives_parametersAfter readParameters, gives_result readResult⟩

/-- **A signature is read as it is declared.**  There is a record iff all parameters are
supported and so is the result.  It then has, in source order, one parameter for each
declared name and one for each declaration without names, named after its position in
the flattened list.  Otherwise the failure is the reason that comes first: that of the
first refused declaration of a parameter, else the number of results if there are
several, else that of the only result; it names the file and the function. -/
theorem record_exact (file : String) (declaration : FunctionDeclaration) (comments : List Comment)
    (start : Position) :
    ((∃ function, record file declaration comments start = .ok function) ↔
      declaration.IsSupported) ∧
    (∀ function, record file declaration comments start = .ok function →
      IsRecordOf file ⟨declaration, comments, start⟩ function ∧
        ReadsSignature declaration function) ∧
    ∀ fault, record file declaration comments start = .error fault ↔
      ∃ refusal, declaration.RefusedFor refusal ∧
        fault = ⟨refusal.toProblem, some file, some declaration.name⟩ := by
  have fails : Traversal.fault? (record file declaration comments start) =
      declaration.refusal?.map fun refusal =>
        ⟨refusal.toProblem, some file, some declaration.name⟩ :=
    fault?_record file ⟨declaration, comments, start⟩
  refine ⟨?_, ?_, ?_⟩
  · rw [← Traversal.fault?_eq_none_iff, fails, Option.map_eq_none_iff,
      FunctionDeclaration.refusal?_eq_none_iff]
  · intro function recorded
    have isRecord : IsRecordOf file ⟨declaration, comments, start⟩ function :=
      isRecordOf_of_record recorded
    exact ⟨isRecord, readsSignature_of_signature isRecord.signature⟩
  · intro fault
    rw [← Traversal.fault?_eq_some_iff, fails, Option.map_eq_some_iff]
    constructor
    · rintro ⟨refusal, refused, rfl⟩
      exact ⟨refusal, FunctionDeclaration.refusal?_eq_some_iff.mp refused, rfl⟩
    · rintro ⟨refusal, refused, rfl⟩
      exact ⟨refusal, FunctionDeclaration.refusal?_eq_some_iff.mpr refused, rfl⟩

end Export

end AddonBindings
