import AddonBindings.Export.Record
import AddonBindings.Proofs.Text.Word
import AddonBindings.Proofs.Traversal

/-!
Contract: what scripts see of an exported function.

Owns:
- the signature of a function under its script name;
- when a record has a signature, and what the record is then made of;
- the records whose bindings can be read back.

Does not own: signatures read from generated text, which belong to the readers of
the two files.
-/

namespace AddonBindings

inductive ScriptType where
  | string
  | number
deriving DecidableEq, Repr

structure ScriptParameter where
  name : String
  type : ScriptType
deriving DecidableEq, Repr

/-- A function as scripts see it.  No result type is void. -/
structure ScriptSignature where
  name : String
  parameters : List ScriptParameter
  result : Option ScriptType
deriving DecidableEq, Repr

def ScriptType.word : ScriptType → String
  | string => "string"
  | number => "number"

def ScriptType.ofWord? (word : String) : Option ScriptType :=
  if word = "string" then some .string else if word = "number" then some .number else none

def BoundaryType.scriptType? : BoundaryType → Option ScriptType
  | text => some .string
  | numeric => some .number
  | foreign _ => none

def ScriptType.boundary : ScriptType → BoundaryType
  | string => .text
  | number => .numeric

def ScriptParameter.toParameter (parameter : ScriptParameter) : Parameter :=
  ⟨parameter.name, some parameter.type.boundary⟩

/-- The parameter as scripts see it, if its type crosses the boundary. -/
def Parameter.scriptParameter? (parameter : Parameter) : Option ScriptParameter :=
  (parameter.type.bind BoundaryType.scriptType?).map (⟨parameter.name, ·⟩)

def scriptResult? : Option BoundaryType → Option (Option ScriptType)
  | none => some none
  | some type => type.scriptType?.map some

/-- The signature that a record gives, if all its types cross the boundary. -/
def ExportedFunction.signature? (function : ExportedFunction) : Option ScriptSignature := do
  let parameters ← function.parameters.mapM Parameter.scriptParameter?
  let result ← scriptResult? function.result
  return ⟨function.scriptName, parameters, result⟩

theorem BoundaryType.eq_boundary {type : BoundaryType} {scriptType : ScriptType}
    (mapped : type.scriptType? = some scriptType) : type = scriptType.boundary := by
  cases type with
  | text => cases mapped; rfl
  | numeric => cases mapped; rfl
  | foreign label => cases mapped

theorem Parameter.eq_toParameter {parameter : Parameter} {scriptParameter : ScriptParameter}
    (mapped : parameter.scriptParameter? = some scriptParameter) :
    parameter = scriptParameter.toParameter := by
  obtain ⟨name, type⟩ := parameter
  obtain ⟨scriptType, found, rfl⟩ := Option.map_eq_some_iff.mp mapped
  obtain ⟨boundary, rfl, known⟩ := Option.bind_eq_some_iff.mp found
  rw [BoundaryType.eq_boundary known, ScriptParameter.toParameter]

private theorem eq_map_toParameter {parameters : List Parameter}
    {scriptParameters : List ScriptParameter}
    (mapped : parameters.mapM Parameter.scriptParameter? = some scriptParameters) :
    parameters = scriptParameters.map ScriptParameter.toParameter := by
  induction parameters generalizing scriptParameters with
  | nil => cases mapped; rfl
  | cons parameter rest inductionHypothesis =>
      rw [List.mapM_cons] at mapped
      obtain ⟨first, found, others⟩ := Option.bind_eq_some_iff.mp mapped
      obtain ⟨back, foundRest, same⟩ := Option.bind_eq_some_iff.mp others
      cases same
      rw [List.map_cons, ← Parameter.eq_toParameter found, ← inductionHypothesis foundRest]

private theorem eq_map_boundary {result : Option BoundaryType} {scriptResult : Option ScriptType}
    (mapped : scriptResult? result = some scriptResult) :
    result = scriptResult.map ScriptType.boundary := by
  cases result with
  | none => cases mapped; rfl
  | some type =>
      obtain ⟨scriptType, known, rfl⟩ := Option.map_eq_some_iff.mp mapped
      rw [BoundaryType.eq_boundary known, Option.map_some]

/-- A record with a signature is made of what the signature says. -/
theorem ExportedFunction.of_signature? {function : ExportedFunction} {signature : ScriptSignature}
    (stated : function.signature? = some signature) :
    signature.name = function.scriptName ∧
      function.parameters = signature.parameters.map ScriptParameter.toParameter ∧
      function.result = signature.result.map ScriptType.boundary := by
  obtain ⟨parameters, foundParameters, rest⟩ := Option.bind_eq_some_iff.mp stated
  obtain ⟨result, foundResult, same⟩ := Option.bind_eq_some_iff.mp rest
  cases same
  exact ⟨rfl, eq_map_toParameter foundParameters, eq_map_boundary foundResult⟩

/-- A record has a signature as soon as each of its types crosses the boundary. -/
theorem ExportedFunction.exists_signature? {function : ExportedFunction}
    (parametersKnown : ∀ parameter ∈ function.parameters, parameter.type.any BoundaryType.isKnown = true)
    (resultKnown : function.result.all BoundaryType.isKnown = true) :
    ∃ signature, function.signature? = some signature := by
  have known (type : BoundaryType) (isKnown : type.isKnown = true) :
      ∃ scriptType, type.scriptType? = some scriptType := by
    cases type with
    | text => exact ⟨.string, rfl⟩
    | numeric => exact ⟨.number, rfl⟩
    | foreign label => cases isKnown
  have parameters : ∃ parameters,
      function.parameters.mapM Parameter.scriptParameter? = some parameters := by
    generalize function.parameters = all at parametersKnown
    induction all with
    | nil => exact ⟨[], rfl⟩
    | cons parameter rest inductionHypothesis =>
        obtain ⟨back, foundRest⟩ :=
          inductionHypothesis (fun other member => parametersKnown other (by simp [member]))
        obtain ⟨type, stated, isKnown⟩ :=
          Option.any_eq_true _ _ |>.mp (parametersKnown parameter (by simp))
        obtain ⟨scriptType, found⟩ := known type isKnown
        exact ⟨⟨parameter.name, scriptType⟩ :: back, by
          simp [List.mapM_cons, Parameter.scriptParameter?, stated, found, foundRest]⟩
  have result : ∃ result, scriptResult? function.result = some result := by
    cases stated : function.result with
    | none => exact ⟨none, rfl⟩
    | some type =>
        rw [stated] at resultKnown
        obtain ⟨scriptType, found⟩ := known type resultKnown
        exact ⟨some scriptType, by rw [scriptResult?, found, Option.map_some]⟩
  obtain ⟨parameters, foundParameters⟩ := parameters
  obtain ⟨result, foundResult⟩ := result
  exact ⟨⟨function.scriptName, parameters, result⟩, by
    simp [ExportedFunction.signature?, foundParameters, foundResult]⟩

structure NamesAreWords (functionName : String) (signature : ScriptSignature) : Prop where
  function : Text.isWord functionName = true
  parameters : ∀ parameter ∈ signature.parameters, Text.isWord parameter.name = true

/-- A record whose bindings can be read back: its names are words and all its types
cross the boundary. -/
structure IsBindable (function : ExportedFunction) : Prop where
  named : Text.isWord function.name = true
  parametersNamed : ∀ parameter ∈ function.parameters, Text.isWord parameter.name = true
  parametersKnown : ∀ parameter ∈ function.parameters,
    parameter.type.any BoundaryType.isKnown = true
  resultKnown : function.result.all BoundaryType.isKnown = true

theorem IsBindable.exists_signature? {function : ExportedFunction} (bindable : IsBindable function) :
    ∃ signature, function.signature? = some signature :=
  ExportedFunction.exists_signature? bindable.parametersKnown bindable.resultKnown

theorem IsBindable.namesAreWords {function : ExportedFunction} (bindable : IsBindable function)
    {signature : ScriptSignature} (stated : function.signature? = some signature) :
    NamesAreWords function.name signature := by
  obtain ⟨-, parameters, -⟩ := ExportedFunction.of_signature? stated
  refine ⟨bindable.named, fun parameter member => ?_⟩
  have inRecord : parameter.toParameter ∈ function.parameters := by
    rw [parameters]
    exact List.mem_map_of_mem member
  exact bindable.parametersNamed parameter.toParameter inRecord

theorem exists_signatures {functions : List ExportedFunction}
    (bindable : ∀ function ∈ functions, IsBindable function) :
    ∃ signatures, functions.mapM ExportedFunction.signature? = some signatures := by
  induction functions with
  | nil => exact ⟨[], rfl⟩
  | cons function rest inductionHypothesis =>
      obtain ⟨signature, found⟩ := (bindable function (by simp)).exists_signature?
      obtain ⟨signatures, foundRest⟩ :=
        inductionHypothesis (fun other member => bindable other (by simp [member]))
      exact ⟨signature :: signatures, by rw [List.mapM_cons, found, foundRest]; rfl⟩

end AddonBindings
