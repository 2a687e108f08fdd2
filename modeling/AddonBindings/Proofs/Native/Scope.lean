import Mathlib.Data.List.Nodup
import Mathlib.Data.List.Pairwise
import AddonBindings.Proofs.Native.Execution
import AddonBindings.Proofs.Typing

/-!
Contract: the names inside a generated callback.

Owns:
- the local variables of a callback, from its record and from its text;
- when they are pairwise distinct, and when the call in the callback means the
  function exported from Go.

Does not own: what a callback does once its names are apart, which is in
`AddonBindings.Proofs.Native.Execution`.
-/

namespace AddonBindings.Native

open Statement (textHolder)

/-! ## The local variables of a callback -/

def argumentLocals (parameter : Parameter) : List String :=
  if parameter.type = some .text then [textHolder (localName parameter), localName parameter]
  else [localName parameter]

def resultLocals (function : ExportedFunction) : List String :=
  if function.result.isSome then ["result", "nodeResult"] else []

private theorem resultLocals_eq_or (function : ExportedFunction) :
    resultLocals function = [] ∨ resultLocals function = ["result", "nodeResult"] := by
  unfold resultLocals
  split
  · exact .inr rfl
  · exact .inl rfl

private theorem mem_argumentLocals {parameter : Parameter} {name : String} :
    name ∈ argumentLocals parameter ↔
      name = localName parameter ∨
        parameter.type = some .text ∧ name = textHolder (localName parameter) := by
  unfold argumentLocals
  split
  next isText => simp [isText, or_comm]
  next noText => simp [noText]

private theorem flatMap_declares_conversions (parameters : List ScriptParameter) (first : Nat) :
    (conversions parameters first).flatMap Statement.declares =
      (parameters.map ScriptParameter.toParameter).flatMap argumentLocals := by
  induction parameters generalizing first with
  | nil => rfl
  | cons parameter rest inductionHypothesis =>
      have one : (argumentConversion first parameter.toParameter).declares =
          argumentLocals parameter.toParameter := by
        obtain ⟨name, type⟩ := parameter
        cases type <;> rfl
      rw [conversions, List.flatMap_cons, one, inductionHypothesis (first + 1), List.map_cons,
        List.flatMap_cons]

/-- Only typed records have a callback. -/
theorem isTyped_of_wrapperBody {function : ExportedFunction} {body : List Statement}
    (made : wrapperBody function = .ok body) : function.IsTyped := by
  have unrefused := map_toBindingFault_fault?_wrapper function
  rw [wrapper, made] at unrefused
  exact ExportedFunction.refusal?_eq_none_iff.mp unrefused.symm

private theorem flatMap_declares_wrapperBody {function : ExportedFunction} {body : List Statement}
    (made : wrapperBody function = .ok body) :
    body.flatMap Statement.declares =
      ["isolate", "scope"] ++
        (function.parameters.flatMap argumentLocals ++ resultLocals function) := by
  obtain ⟨signature, stated⟩ := (isTyped_of_wrapperBody made).exists_signature?
  obtain ⟨-, parameters, result⟩ := ExportedFunction.of_signature? stated
  rw [wrapperBody_eq_bodyOf stated, Except.ok.injEq] at made
  have names := namesInScope_bodyOf function.name signature
  rw [namesInScope, flatMap_declares_conversions, ← parameters] at names
  have kept : signature.result.isSome = function.result.isSome := by
    rw [result, Option.isSome_map]
  rw [← made, resultLocals, ← kept]
  exact (List.cons.inj (List.cons.inj names).2).2

/-! ## Distinct variables -/

/-- No parameter is named like the holder of a text parameter. -/
def HoldersAreFree (function : ExportedFunction) : Prop :=
  ∀ parameter ∈ function.parameters, parameter.type = some .text →
    ∀ other ∈ function.parameters, other.name ≠ parameter.name ++ "_s"

private theorem localName_inj {parameter other : Parameter} :
    localName parameter = localName other ↔ parameter.name = other.name :=
  String.append_right_inj _

private theorem textHolder_inj {name other : String} :
    textHolder name = textHolder other ↔ name = other :=
  String.append_left_inj _

private theorem localName_eq_textHolder_iff {parameter other : Parameter} :
    localName other = textHolder (localName parameter) ↔ other.name = parameter.name ++ "_s" := by
  rw [textHolder, localName, localName, String.append_assoc, String.append_right_inj]

private theorem textHolder_ne_self (name : String) : textHolder name ≠ name := by
  intro same
  have sizes := congrArg String.length same
  rw [textHolder, String.length_append] at sizes
  have holder : "_s".length = 2 := by decide
  omega

/-- The variables of an argument start with the mark of arguments. -/
theorem exists_eq_append_of_mem_argumentLocals {parameter : Parameter} {name : String}
    (member : name ∈ argumentLocals parameter) : ∃ rest, name = "go_" ++ rest := by
  rcases mem_argumentLocals.mp member with rfl | ⟨-, rfl⟩
  · exact ⟨parameter.name, rfl⟩
  · exact ⟨parameter.name ++ "_s", by rw [textHolder, localName, String.append_assoc]⟩

private theorem ne_of_mem_argumentLocals {parameter : Parameter} {name other : String}
    (member : name ∈ argumentLocals parameter) (unmarked : other.toList.head? ≠ some 'g') :
    name ≠ other := by
  obtain ⟨rest, rfl⟩ := exists_eq_append_of_mem_argumentLocals member
  rintro rfl
  exact unmarked (by rw [String.toList_append]; rfl)

private theorem nodup_argumentLocals (parameter : Parameter) :
    (argumentLocals parameter).Nodup := by
  unfold argumentLocals
  split
  · exact List.nodup_cons.mpr
      ⟨fun member => textHolder_ne_self _ (List.mem_singleton.mp member), List.nodup_singleton _⟩
  · exact List.nodup_singleton _

/-- Two parameters of different names only meet in a variable if one is named like the
holder of the other. -/
theorem disjoint_argumentLocals {function : ExportedFunction} (free : HoldersAreFree function)
    {parameter other : Parameter} (member : parameter ∈ function.parameters)
    (otherMember : other ∈ function.parameters) (differ : parameter.name ≠ other.name) :
    List.Disjoint (argumentLocals parameter) (argumentLocals other) := by
  intro name inFirst inSecond
  rcases mem_argumentLocals.mp inFirst with rfl | ⟨isText, rfl⟩
  · rcases mem_argumentLocals.mp inSecond with same | ⟨otherIsText, same⟩
    · exact differ (localName_inj.mp same)
    · exact free other otherMember otherIsText parameter member
        (localName_eq_textHolder_iff.mp same)
  · rcases mem_argumentLocals.mp inSecond with same | ⟨-, same⟩
    · exact free parameter member isText other otherMember
        (localName_eq_textHolder_iff.mp same.symm)
    · exact differ (localName_inj.mp (textHolder_inj.mp same))

private theorem nodup_flatMap_argumentLocals_iff {function : ExportedFunction}
    (apart : (function.parameters.map Parameter.name).Nodup) :
    (function.parameters.flatMap argumentLocals).Nodup ↔ HoldersAreFree function := by
  rw [List.nodup_flatMap]
  constructor
  · rintro ⟨-, disjoint⟩ parameter member isText other otherMember taken
    have symmetric : Std.Symm (Function.onFun List.Disjoint argumentLocals) :=
      ⟨fun _ _ separate => List.disjoint_symm separate⟩
    have differ : parameter ≠ other := by
      rintro rfl
      exact textHolder_ne_self parameter.name taken.symm
    have separate := disjoint.forall member otherMember differ
    have holder := mem_argumentLocals.mpr (.inr ⟨isText, rfl⟩)
    rw [← localName_eq_textHolder_iff.mpr taken] at holder
    exact separate holder (mem_argumentLocals.mpr (.inl rfl))
  · intro free
    refine ⟨fun parameter _ => nodup_argumentLocals parameter, ?_⟩
    have names := List.inj_on_of_nodup_map apart
    apply apart.of_map.pairwise_of_forall_ne
    intro parameter member other otherMember differ
    exact disjoint_argumentLocals free member otherMember
      fun same => differ (names member otherMember same)

/-- The variables of a callback are pairwise distinct iff no parameter is named like
the holder of a text parameter. -/
theorem nodup_declares_iff {function : ExportedFunction} {body : List Statement}
    (apart : (function.parameters.map Parameter.name).Nodup)
    (made : wrapperBody function = .ok body) :
    (body.flatMap Statement.declares).Nodup ↔ HoldersAreFree function := by
  have arguments := nodup_flatMap_argumentLocals_iff apart
  have unmarked : ∀ fixed ∈ ["isolate", "scope"] ++ resultLocals function,
      fixed.toList.head? ≠ some 'g' := by
    rcases resultLocals_eq_or function with none | kept
    · rw [none]
      decide
    · rw [kept]
      decide
  have separate (name fixed : String) (member : name ∈ function.parameters.flatMap argumentLocals)
      (isFixed : fixed ∈ ["isolate", "scope"] ++ resultLocals function) : name ≠ fixed := by
    obtain ⟨parameter, -, inLocals⟩ := List.mem_flatMap.mp member
    exact ne_of_mem_argumentLocals inLocals (unmarked fixed isFixed)
  have fixedApart : (["isolate", "scope"] ++ resultLocals function).Nodup := by
    rcases resultLocals_eq_or function with none | kept
    · rw [none]
      decide
    · rw [kept]
      decide
  obtain ⟨opening, results, ends⟩ := List.nodup_append.mp fixedApart
  -- only the arguments can collide with one another: their mark keeps the fixed names away
  rw [flatMap_declares_wrapperBody made, List.nodup_append, List.nodup_append, ← arguments]
  constructor
  · rintro ⟨-, ⟨argumentsApart, -⟩, -⟩
    exact argumentsApart
  · intro argumentsApart
    refine ⟨opening, ⟨argumentsApart, results, ?_⟩, ?_⟩
    · intro name member fixed isResult
      exact separate name fixed member (List.mem_append_right _ isResult)
    · intro fixed isOpening name member
      rcases List.mem_append.mp member with inArguments | isResult
      · exact (separate name fixed inArguments (List.mem_append_left _ isOpening)).symm
      · exact ends fixed isOpening name isResult

/-! ## The called function -/

/-- The name of the function is that of no variable in its callback. -/
structure IsUnhidden (function : ExportedFunction) : Prop where
  fixed : function.name ∉ ["args", "isolate", "scope"]
  result : function.result.isSome → function.name ∉ ["result", "nodeResult"]
  argument : ∀ parameter ∈ function.parameters, function.name ≠ "go_" ++ parameter.name
  holder : ∀ parameter ∈ function.parameters, parameter.type = some .text →
    function.name ≠ "go_" ++ parameter.name ++ "_s"

private theorem not_mem_declares_iff {function : ExportedFunction} {body : List Statement}
    (made : wrapperBody function = .ok body) :
    function.name ∉ "args" :: body.flatMap Statement.declares ↔ IsUnhidden function := by
  have regrouped : function.name ∉ "args" :: body.flatMap Statement.declares ↔
      function.name ∉ ["args", "isolate", "scope"] ∧
        function.name ∉ function.parameters.flatMap argumentLocals ∧
        function.name ∉ resultLocals function := by
    rw [flatMap_declares_wrapperBody made, ← List.cons_append, List.mem_append, List.mem_append,
      not_or, not_or]
  have results : function.name ∉ resultLocals function ↔
      (function.result.isSome → function.name ∉ ["result", "nodeResult"]) := by
    unfold resultLocals
    cases function.result <;> simp
  have arguments : function.name ∉ function.parameters.flatMap argumentLocals ↔
      ∀ parameter ∈ function.parameters, function.name ≠ localName parameter ∧
        (parameter.type = some .text → function.name ≠ textHolder (localName parameter)) := by
    simp only [List.mem_flatMap, mem_argumentLocals, not_exists, not_and, not_or]
  rw [regrouped, results, arguments]
  constructor
  · rintro ⟨fixed, argument, result⟩
    exact ⟨fixed, result, fun parameter member => (argument parameter member).1,
      fun parameter member => (argument parameter member).2⟩
  · rintro ⟨fixed, result, argument, holder⟩
    exact ⟨fixed, fun parameter member => ⟨argument parameter member, holder parameter member⟩,
      result⟩

/-! ## The text of a callback -/

def Instruction.declared? : Instruction → Option String
  | takeIsolate => some "isolate"
  | openScope => some "scope"
  | holdText holder _ => some holder
  | pointTo variableName _ | takeNumber variableName _ | convert variableName _ _ =>
      some variableName
  | call keptAs _ _ => keptAs
  | _ => none

def Instruction.callee? : Instruction → Option String
  | call _ function _ => some function
  | _ => none

private theorem filterMap_declared?_instructions (body : List Statement) :
    (body.flatMap Statement.instructions).filterMap Instruction.declared? =
      body.flatMap Statement.declares := by
  rw [List.filterMap_flatMap]
  congr 1
  funext statement
  cases statement with
  | guardThat condition message => cases condition <;> rfl
  | call function arguments keeps => cases keeps <;> rfl
  | _ => rfl

private theorem filterMap_callee?_bodyOf (functionName : String) (signature : ScriptSignature) :
    ((bodyOf functionName signature).flatMap Statement.instructions).filterMap
      Instruction.callee? = [functionName] := by
  have guards : ((typeGuards signature.parameters 0).flatMap Statement.instructions).filterMap
      Instruction.callee? = [] := by
    rw [List.filterMap_flatMap, List.flatMap_eq_nil_iff]
    intro statement member
    obtain ⟨⟨name, type⟩, -, index, rfl⟩ := exists_of_mem_typeGuards member
    cases type <;> rfl
  have converted : ((conversions signature.parameters 0).flatMap Statement.instructions).filterMap
      Instruction.callee? = [] := by
    rw [List.filterMap_flatMap, List.flatMap_eq_nil_iff]
    intro statement member
    obtain ⟨⟨name, type⟩, -, index, rfl⟩ := exists_of_mem_conversions member
    cases type <;> rfl
  have returned : ((resultStatements signature.result).flatMap Statement.instructions).filterMap
      Instruction.callee? = [] := by
    cases signature.result <;> rfl
  have called (keptAs : Option String) (arguments : List String) :
      (Instruction.call keptAs functionName arguments).callee? = some functionName := rfl
  rw [flatMap_instructions_bodyOf, List.filterMap_append, List.filterMap_append,
    List.filterMap_append, List.filterMap_append, guards, converted,
    List.filterMap_cons_some (called _ _), returned]
  rfl

/-- The text of a callback shows the variables that it declares, and the one function
that it calls. -/
theorem read_wrapperBody {function : ExportedFunction} {body : List Statement}
    (made : wrapperBody function = .ok body) (named : Text.isWord function.name = true)
    (parametersNamed : ∀ parameter ∈ function.parameters, Text.isWord parameter.name = true) :
    ∃ lines instructions,
      wrapper function = .ok lines ∧
      callbacks (Text.phrases (Text.tokens (Text.fileText lines))) =
        [(wrapperName function, instructions)] ∧
      instructions.filterMap Instruction.declared? = body.flatMap Statement.declares ∧
      instructions.filterMap Instruction.callee? = [function.name] := by
  have typed := isTyped_of_wrapperBody made
  have bindable : IsBindable function :=
    ⟨named, parametersNamed, typed.parameters, typed.result⟩
  obtain ⟨signature, stated⟩ := typed.exists_signature?
  rw [wrapperBody_eq_bodyOf stated, Except.ok.injEq] at made
  have same : bodyFor function = body := by
    rw [bodyFor, stated, ← made]
    rfl
  have found := callbacks_wrapperLines named (isReadable_bodyFor bindable)
  refine ⟨_, _, wrapper_eq_of_isBindable bindable, found, ?_, ?_⟩
  · rw [filterMap_declared?_instructions, same]
  · rw [same, ← made, filterMap_callee?_bodyOf]

/-- Which names collide in a generated callback.  For all functions whose parameters
have pairwise distinct names, in each callback: the local variables are pairwise distinct
exactly if no parameter is named like the holder of a text parameter; the called function
is hidden by no local variable and not by the arguments exactly if it is named like none
of them; and it is no callback exactly if no function of the list has a callback of its
name.  These are the variables and the call that the text of the callback shows. -/
theorem names_apart_iff {functions : List ExportedFunction}
    (parametersApart : ∀ function ∈ functions, (function.parameters.map Parameter.name).Nodup)
    {function : ExportedFunction} (member : function ∈ functions) {body : List Statement}
    (made : wrapperBody function = .ok body) :
    ((body.flatMap Statement.declares).Nodup ↔ HoldersAreFree function) ∧
    (function.name ∉ "args" :: body.flatMap Statement.declares ↔ IsUnhidden function) ∧
    (function.name ∉ functions.map wrapperName ↔
      ∀ other ∈ functions, function.name ≠ other.name ++ "_Func") ∧
    (Text.isWord function.name = true →
      (∀ parameter ∈ function.parameters, Text.isWord parameter.name = true) →
      ∃ lines instructions,
        wrapper function = .ok lines ∧
        callbacks (Text.phrases (Text.tokens (Text.fileText lines))) =
          [(wrapperName function, instructions)] ∧
        instructions.filterMap Instruction.declared? = body.flatMap Statement.declares ∧
        instructions.filterMap Instruction.callee? = [function.name]) := by
  refine ⟨nodup_declares_iff (parametersApart function member) made, not_mem_declares_iff made, ?_,
    read_wrapperBody made⟩
  simp only [List.mem_map, not_exists, not_and, wrapperName]
  exact forall₂_congr fun other _ => ne_comm

/-- Names that come close to a holder and to the variables of the result. -/
def carefulFunction : ExportedFunction :=
  { name := "Result", result := some .text,
    parameters := [⟨"a", some .text⟩, ⟨"s", some .text⟩, ⟨"b_s", some .numeric⟩] }

theorem carefulFunction_apart :
    ∃ body lines instructions,
      wrapperBody carefulFunction = .ok body ∧
      (body.flatMap Statement.declares).Nodup ∧
      carefulFunction.name ∉ "args" :: body.flatMap Statement.declares ∧
      carefulFunction.name ∉ [carefulFunction, { name := "Result_Func" }].map wrapperName ∧
      wrapper carefulFunction = .ok lines ∧
      callbacks (Text.phrases (Text.tokens (Text.fileText lines))) = [("Result_Func", instructions)] ∧
      instructions.filterMap Instruction.callee? = ["Result"] := by
  have parametersApart : ∀ function ∈ [carefulFunction, { name := "Result_Func" }],
      (function.parameters.map Parameter.name).Nodup := by decide
  have free : HoldersAreFree carefulFunction := by
    unfold HoldersAreFree
    decide
  have unhidden : IsUnhidden carefulFunction :=
    ⟨by decide, by decide, by decide, by decide⟩
  have noCallback : ∀ other ∈ [carefulFunction, { name := "Result_Func" }],
      carefulFunction.name ≠ other.name ++ "_Func" := by decide
  have made : ∃ body, wrapperBody carefulFunction = .ok body := ⟨_, rfl⟩
  obtain ⟨body, made⟩ := made
  obtain ⟨locals, called, callbacks, text⟩ :=
    names_apart_iff parametersApart List.mem_cons_self made
  obtain ⟨lines, instructions, written, found, -, callee⟩ := text (by decide) (by decide)
  exact ⟨body, lines, instructions, made, locals.mpr free, called.mpr unhidden,
    callbacks.mpr noCallback, written, found, callee⟩

def collidingFunctions : List ExportedFunction :=
  [ { name := "Join", parameters := [⟨"a", some .text⟩, ⟨"a_s", some .text⟩] },
    { name := "result", result := some .numeric },
    { name := "Join_Func" } ]

/-- A holder that is declared twice, a function that its own result hides, and a
function that a callback hides. -/
theorem collidingFunctions_collide :
    (collidingFunctions.map ExportedFunction.name).Nodup ∧
    (∀ function ∈ collidingFunctions, (function.parameters.map Parameter.name).Nodup ∧
      ∀ parameter ∈ function.parameters, Text.isWord parameter.name = true) ∧
    (∃ function ∈ collidingFunctions, ∃ body, wrapperBody function = .ok body ∧
      ¬ (body.flatMap Statement.declares).Nodup) ∧
    (∃ function ∈ collidingFunctions, ∃ body, wrapperBody function = .ok body ∧
      function.name ∈ body.flatMap Statement.declares) ∧
    ∃ function ∈ collidingFunctions, function.name ∈ collidingFunctions.map wrapperName := by
  refine ⟨by decide, by decide, ?_, ?_, ?_⟩
  · exact ⟨_, List.mem_cons_self, _, rfl, by decide⟩
  · exact ⟨_, List.mem_cons_of_mem _ List.mem_cons_self, _, rfl, by decide⟩
  · decide

end AddonBindings.Native
