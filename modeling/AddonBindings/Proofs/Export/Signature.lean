import AddonBindings.Export.Signature
import AddonBindings.Proofs.Traversal

/-!
Contract: which signatures are supported, and why another one is refused.

Owns:
- supported types, parameters, results and signatures;
- the refusal of a signature: that of its first refused parameter, else that of its
  result;
- agreement of the mapped signature with its refusal.

Does not own: the boundary types of a supported signature.
-/

namespace AddonBindings

open Export Traversal

/-! ## What is supported -/

/-- A numeric name, or a pointer to `C.char`. -/
def TypeExpression.IsSupported : TypeExpression → Prop
  | identifier name => name ∈ numericNames
  | pointer package name => package = "C" ∧ name = "char"
  | other _ => False

instance (expression : TypeExpression) : Decidable expression.IsSupported :=
  match expression with
  | .identifier name => inferInstanceAs (Decidable (name ∈ TypeExpression.numericNames))
  | .pointer package name => inferInstanceAs (Decidable (package = "C" ∧ name = "char"))
  | .other _ => inferInstanceAs (Decidable False)

namespace Go

/-- A declaration whose type is supported, and no variadic one. -/
def ParameterItem.IsSupported : ParameterItem → Prop
  | declared _ type => type.expression.IsSupported
  | variadic _ _ => False
  | comment _ => True

/-- At most one result, of a supported type.  Names of results count. -/
def ResultSyntax.IsSupported : ResultSyntax → Prop
  | absent => True
  | single type => type.expression.IsSupported
  | listed items => countResults items ≤ 1 ∧ ∀ item ∈ items, item.IsSupported

/-- All parameters are supported, and so is the result. -/
structure FunctionDeclaration.IsSupported (declaration : FunctionDeclaration) : Prop where
  parameters : ∀ item ∈ declaration.parameters, item.IsSupported
  result : declaration.result.IsSupported

/-! ## Why something is refused -/

def TypeSyntax.refusal? (type : TypeSyntax) : Option SignatureFault :=
  if type.expression.IsSupported then none else some (.unsupportedType type.expression.raw)

def ParameterItem.refusal? : ParameterItem → Option SignatureFault
  | declared _ type => type.refusal?
  | variadic _ type => some (.unsupportedType ("..." ++ type.text))
  | comment _ => none

/-- Several results are refused whatever their types are. -/
def ResultSyntax.refusal? : ResultSyntax → Option SignatureFault
  | absent => none
  | single type => type.refusal?
  | listed items =>
      if countResults items ≤ 1 then items.findSome? ParameterItem.refusal?
      else some (.multipleResults (countResults items))

/-- The parameters come before the result. -/
def FunctionDeclaration.refusal? (declaration : FunctionDeclaration) : Option SignatureFault :=
  (declaration.parameters.findSome? ParameterItem.refusal?).or declaration.result.refusal?

theorem TypeSyntax.refusal?_eq_none_iff {type : TypeSyntax} :
    type.refusal? = none ↔ type.expression.IsSupported := by
  rw [refusal?]
  by_cases supported : type.expression.IsSupported
  · simp [supported]
  · simp [supported]

theorem ParameterItem.refusal?_eq_none_iff {item : ParameterItem} :
    item.refusal? = none ↔ item.IsSupported := by
  cases item with
  | declared names type => exact TypeSyntax.refusal?_eq_none_iff
  | variadic name type => simp [refusal?, IsSupported]
  | comment text => simp [refusal?, IsSupported]

theorem ParameterItem.findSome?_refusal?_eq_none_iff {items : List ParameterItem} :
    items.findSome? refusal? = none ↔ ∀ item ∈ items, item.IsSupported := by
  rw [List.findSome?_eq_none_iff]
  exact forall₂_congr fun item _ => refusal?_eq_none_iff

theorem ResultSyntax.refusal?_eq_none_iff {result : ResultSyntax} :
    result.refusal? = none ↔ result.IsSupported := by
  cases result with
  | absent => simp [refusal?, IsSupported]
  | single type => exact TypeSyntax.refusal?_eq_none_iff
  | listed items =>
      rw [refusal?, IsSupported, ← ParameterItem.findSome?_refusal?_eq_none_iff]
      by_cases few : countResults items ≤ 1
      · simp [few]
      · simp [few]

/-- A signature is refused iff it is not supported. -/
theorem FunctionDeclaration.refusal?_eq_none_iff {declaration : FunctionDeclaration} :
    declaration.refusal? = none ↔ declaration.IsSupported := by
  rw [refusal?, Option.or_eq_none_iff, ParameterItem.findSome?_refusal?_eq_none_iff,
    ResultSyntax.refusal?_eq_none_iff]
  constructor
  · rintro ⟨parameters, result⟩
    exact ⟨parameters, result⟩
  · rintro ⟨parameters, result⟩
    exact ⟨parameters, result⟩

end Go

/-! ## The mapped signature -/

namespace Export

open Go

private theorem fault?_boundaryType (type : TypeSyntax) :
    fault? (boundaryType type) = type.refusal? := by
  rw [boundaryType, fault?_mapError, TypeSyntax.refusal?]
  cases type.expression with
  | identifier name =>
      by_cases isNumeric : name ∈ TypeExpression.numericNames
      · simp [TypeExpression.boundary, TypeExpression.IsSupported, isNumeric, fault?]
      · simp [TypeExpression.boundary, TypeExpression.IsSupported, isNumeric, fault?]
  | pointer package name =>
      by_cases isText : package = "C" ∧ name = "char"
      · simp [TypeExpression.boundary, TypeExpression.IsSupported, isText, fault?]
      · simp [TypeExpression.boundary, TypeExpression.IsSupported, isText, fault?]
  | other raw => simp [TypeExpression.boundary, TypeExpression.IsSupported, fault?, TypeExpression.raw]

private theorem fault?_parametersAfter (before : Nat) (items : List ParameterItem) :
    fault? (parametersAfter before items) = items.findSome? ParameterItem.refusal? := by
  induction items generalizing before with
  | nil => rfl
  | cons item rest inductionHypothesis =>
      rw [findSome?_cons_eq_or]
      cases item with
      | comment text => exact inductionHypothesis before
      | variadic name type => rfl
      | declared names type =>
          rw [parametersAfter, fault?_bind (rest.findSome? ParameterItem.refusal?),
            fault?_boundaryType, ParameterItem.refusal?]
          intro boundary
          rw [fault?_bind none (fun _ => rfl), inductionHypothesis, Option.or_none]

/-- Items that count for nothing are comments. -/
theorem findSome?_refusal?_of_countResults_eq_zero {items : List ParameterItem}
    (none : countResults items = 0) : items.findSome? ParameterItem.refusal? = .none := by
  induction items with
  | nil => rfl
  | cons item rest inductionHypothesis =>
      rw [countResults, Nat.add_eq_zero_iff] at none
      rw [findSome?_cons_eq_or, inductionHypothesis none.2, Option.or_none]
      cases item with
      | comment text => rfl
      | declared names type =>
          have one : 1 ≤ resultCount (.declared names type) := Nat.le_max_left 1 names.length
          omega
      | variadic name type => cases none.1

/-- With at most one result, only the first item that is no comment has a type. -/
theorem fault?_firstResult {items : List ParameterItem} (few : countResults items ≤ 1) :
    fault? (firstResult items) = items.findSome? ParameterItem.refusal? := by
  induction items with
  | nil => rfl
  | cons item rest inductionHypothesis =>
      rw [countResults] at few
      rw [findSome?_cons_eq_or]
      cases item with
      | comment text =>
          rw [resultCount, Nat.zero_add] at few
          exact inductionHypothesis few
      | variadic name type => rfl
      | declared names type =>
          have one : 1 ≤ resultCount (.declared names type) := Nat.le_max_left 1 names.length
          have noOther : countResults rest = 0 := by omega
          have others := findSome?_refusal?_of_countResults_eq_zero noOther
          rw [firstResult, fault?_map, fault?_boundaryType, others, Option.or_none,
            ParameterItem.refusal?]

private theorem fault?_result (given : ResultSyntax) : fault? (result given) = given.refusal? := by
  cases given with
  | absent => rfl
  | single type =>
      rw [result, fault?_map, fault?_boundaryType]
      rfl
  | listed items =>
      -- the results are counted before their types are looked at
      rw [result, ResultSyntax.refusal?]
      by_cases few : countResults items ≤ 1
      · rw [if_pos few, ← fault?_firstResult few]
        simp only [if_neg (Nat.not_lt.mpr few)]
      · rw [if_neg few]
        simp only [if_pos (Nat.not_le.mp few)]
        rfl

/-- A signature cannot be mapped for exactly the reason for which it is refused. -/
theorem fault?_signature (declaration : FunctionDeclaration) :
    fault? (signature declaration) = declaration.refusal? := by
  rw [signature, fault?_bind declaration.result.refusal?, parameters,
    fault?_parametersAfter, FunctionDeclaration.refusal?]
  intro taken
  rw [fault?_bind none (fun _ => rfl), fault?_result, Option.or_none]

end Export

end AddonBindings
