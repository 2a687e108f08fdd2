import AddonBindings.Bindings
import AddonBindings.Proofs.Declaration.Reading

/-!
Contract: records whose types all cross the boundary.

Owns:
- typed records, and why the bindings of any other record are refused;
- the law that bindings are refused as the first of their records that is not typed,
  and are made if there is none.

Does not own: that extracted records are typed, which is in
`AddonBindings.Proofs.Run.Typing`.
-/

namespace AddonBindings

open Traversal

/-! ## Typed records -/

/-- All types that a record states cross the boundary. -/
structure ExportedFunction.IsTyped (function : ExportedFunction) : Prop where
  parameters : ∀ parameter ∈ function.parameters, parameter.type.any BoundaryType.isKnown = true
  result : function.result.all BoundaryType.isKnown = true

def BoundaryType.unknownLabel? : BoundaryType → Option String
  | text | numeric => none
  | foreign label => some label

/-- A parameter is refused under the label of its type, or under none if it has no
type. -/
def Parameter.refusal? (parameter : Parameter) : Option UnknownBoundary :=
  match parameter.type with
  | none => some ⟨none⟩
  | some type => type.unknownLabel?.map fun label => ⟨some label⟩

/-- A result is refused with its function, and with the file of the function if that
is known. -/
def ExportedFunction.resultRefusal (function : ExportedFunction) (label : String) : BindingFault :=
  let file := if function.sourceFile.isEmpty then none else some function.sourceFile
  .generation ⟨.unsupportedResult label, file, some function.name⟩

/-- Why the bindings of a record are refused: for its result, or else for the first of
its parameters that is refused. -/
def ExportedFunction.refusal? (function : ExportedFunction) : Option BindingFault :=
  ((function.result.bind BoundaryType.unknownLabel?).map function.resultRefusal).or
    ((function.parameters.findSome? Parameter.refusal?).map .unknownBoundary)

theorem BoundaryType.unknownLabel?_eq_none_iff {type : BoundaryType} :
    type.unknownLabel? = none ↔ type.isKnown = true := by
  cases type <;> simp [unknownLabel?, isKnown]

theorem Parameter.refusal?_eq_none_iff {parameter : Parameter} :
    parameter.refusal? = none ↔ parameter.type.any BoundaryType.isKnown = true := by
  rw [refusal?]
  cases parameter.type with
  | none => simp
  | some type => simp [BoundaryType.unknownLabel?_eq_none_iff]

/-- The bindings of a record are refused iff it is not typed. -/
theorem ExportedFunction.refusal?_eq_none_iff {function : ExportedFunction} :
    function.refusal? = none ↔ function.IsTyped := by
  have result : function.result.bind BoundaryType.unknownLabel? = none ↔
      function.result.all BoundaryType.isKnown = true := by
    cases function.result with
    | none => simp
    | some type => exact BoundaryType.unknownLabel?_eq_none_iff
  have parameters : function.parameters.findSome? Parameter.refusal? = none ↔
      ∀ parameter ∈ function.parameters, parameter.type.any BoundaryType.isKnown = true := by
    rw [List.findSome?_eq_none_iff]
    exact forall₂_congr fun parameter _ => Parameter.refusal?_eq_none_iff
  rw [refusal?, Option.or_eq_none_iff, Option.map_eq_none_iff, Option.map_eq_none_iff, result,
    parameters]
  constructor
  · rintro ⟨resultKnown, parametersKnown⟩
    exact ⟨parametersKnown, resultKnown⟩
  · rintro ⟨parametersKnown, resultKnown⟩
    exact ⟨resultKnown, parametersKnown⟩

theorem ExportedFunction.IsTyped.exists_signature? {function : ExportedFunction}
    (typed : function.IsTyped) : ∃ signature, function.signature? = some signature :=
  ExportedFunction.exists_signature? typed.parameters typed.result

/-! ## The native source -/

namespace Native

private theorem fault?_returnConversion (result : Option BoundaryType) :
    fault? (returnConversion result) = result.bind BoundaryType.unknownLabel? := by
  cases result with
  | none => rfl
  | some type => cases type <;> rfl

private theorem fault?_argumentTypeCheck (index : Int) (parameter : Parameter) :
    fault? (argumentTypeCheck index parameter) = parameter.refusal? := by
  rw [argumentTypeCheck, Parameter.refusal?]
  cases parameter.type with
  | none => rfl
  | some type => cases type <;> rfl

/-- A search over the parameters does not depend on their positions. -/
theorem findSome?_indexed {β : Type} (find : Parameter → Option β) (parameters : List Parameter) :
    (indexed parameters).findSome? (fun entry => find entry.2) = parameters.findSome? find := by
  have unnumbered : (indexed parameters).map Prod.snd = parameters := by
    rw [indexed, List.map_map]
    exact List.zipIdx_map_fst 0 parameters
  conv_rhs => rw [← unnumbered, List.findSome?_map]
  rfl

/-- The result of a function is looked at before its parameters. -/
theorem fault?_wrapper (function : ExportedFunction) :
    fault? (wrapper function) =
      ((function.result.bind BoundaryType.unknownLabel?).map WrapperFault.result).or
        ((function.parameters.findSome? Parameter.refusal?).map WrapperFault.parameter) := by
  have checks : fault? ((indexed function.parameters).mapM fun entry =>
      argumentTypeCheck entry.1 entry.2) = function.parameters.findSome? Parameter.refusal? := by
    rw [fault?_mapM, ← findSome?_indexed]
    simp only [fault?_argumentTypeCheck]
  rw [wrapper, fault?_map, wrapperBody,
    fault?_bind ((function.parameters.findSome? Parameter.refusal?).map WrapperFault.parameter),
    fault?_mapError, fault?_returnConversion]
  intro returned
  rw [fault?_bind none (fun _ => rfl), fault?_mapError, checks, Option.or_none]

/-- The callback of a record is refused as the record is. -/
theorem map_toBindingFault_fault?_wrapper (function : ExportedFunction) :
    (fault? (wrapper function)).map (fun cause => (SourceFault.mk function cause).toBindingFault) =
      function.refusal? := by
  rw [fault?_wrapper, ExportedFunction.refusal?]
  cases function.result.bind BoundaryType.unknownLabel? with
  | some label => rfl
  | none => cases function.parameters.findSome? Parameter.refusal? <;> rfl

/-- The native source is refused as the first record that is. -/
theorem map_toBindingFault_fault?_source (functions : List ExportedFunction) (addon : String) :
    (fault? (source functions addon)).map SourceFault.toBindingFault =
      functions.findSome? ExportedFunction.refusal? := by
  rw [source, fault?_bind none (fun _ => rfl), Option.or_none, fault?_mapM, List.map_findSome?]
  congr 1
  funext function
  rw [Function.comp_apply, fault?_mapError, Option.map_map]
  exact map_toBindingFault_fault?_wrapper function

end Native

/-! ## The declarations -/

/-- Typed records have declarations. -/
theorem Declaration.exists_source_of_isTyped {functions : List ExportedFunction}
    (typed : ∀ function ∈ functions, function.IsTyped) (addon : String) :
    ∃ text, source functions addon = .ok text := by
  rw [← fault?_eq_none_iff, source, fault?_bind none (fun _ => rfl), Option.or_none, fault?_mapM,
    List.findSome?_eq_none_iff]
  intro function member
  obtain ⟨signature, stated⟩ := (typed function member).exists_signature?
  rw [memberLines, fault?_map, member_eq stated]
  rfl

/-! ## Both files -/

/-- With a name that addons may have, only the two sources can fail. -/
theorem generate_eq {addon : String} (named : isAddonName addon.toList = true)
    (functions : List ExportedFunction) :
    Bindings.generate functions (.text addon) = (do
      let native ← (Native.source functions addon).mapError Native.SourceFault.toBindingFault
      let declaration ← (Declaration.source functions addon).mapError BindingFault.unknownBoundary
      return ⟨native, declaration⟩) := by
  have checked : checkAddonName (.text addon) = .ok addon := if_pos named
  rw [Bindings.generate, checked]
  rfl

/-- Under a name that an addon may have, the bindings are refused as the first record
that is. -/
theorem fault?_generate {addon : String} (named : isAddonName addon.toList = true)
    (functions : List ExportedFunction) :
    fault? (Bindings.generate functions (.text addon)) =
      functions.findSome? ExportedFunction.refusal? := by
  have native := Native.map_toBindingFault_fault?_source functions addon
  have declared (made : functions.findSome? ExportedFunction.refusal? = none) :
      ∃ text, Declaration.source functions addon = .ok text := by
    apply Declaration.exists_source_of_isTyped
    intro function member
    rw [← ExportedFunction.refusal?_eq_none_iff]
    exact List.findSome?_eq_none_iff.mp made function member
  rw [generate_eq named]
  cases nativeMade : Native.source functions addon with
  | error fault =>
      rw [nativeMade] at native
      exact native
  | ok text =>
      rw [nativeMade] at native
      obtain ⟨declaration, made⟩ := declared native.symm
      rw [made]
      exact native

/-- Bindings are made iff every record is typed. -/
theorem exists_generate_eq_ok_iff {addon : String} (named : isAddonName addon.toList = true)
    (functions : List ExportedFunction) :
    (∃ bindings, Bindings.generate functions (.text addon) = .ok bindings) ↔
      ∀ function ∈ functions, function.IsTyped := by
  rw [← fault?_eq_none_iff, fault?_generate named, List.findSome?_eq_none_iff]
  exact forall₂_congr fun function _ => ExportedFunction.refusal?_eq_none_iff

/-- Bindings fail exactly with the refusal of the first record that is not typed. -/
theorem generate_eq_error_iff {addon : String} (named : isAddonName addon.toList = true)
    (functions : List ExportedFunction) (fault : BindingFault) :
    Bindings.generate functions (.text addon) = .error fault ↔
      ∃ before function later, functions = before ++ function :: later ∧
        (∀ earlier ∈ before, earlier.IsTyped) ∧ function.refusal? = some fault := by
  rw [← fault?_eq_some_iff, fault?_generate named, List.findSome?_eq_some_iff]
  constructor
  · rintro ⟨before, function, later, split, refused, typed⟩
    exact ⟨before, function, later, split,
      fun earlier member => ExportedFunction.refusal?_eq_none_iff.mp (typed earlier member), refused⟩
  · rintro ⟨before, function, later, split, typed, refused⟩
    exact ⟨before, function, later, split, refused,
      fun earlier member => ExportedFunction.refusal?_eq_none_iff.mpr (typed earlier member)⟩

end AddonBindings
