import Mathlib.Data.List.Nodup
import AddonBindings.Proofs.Native.Machine

/-!
Contract: what a generated callback does on every list of arguments.

Owns:
- the outcome that scripts expect of a function with a signature;
- the theorem that the callback, read from its text and run, has this outcome.

Does not own: the steps of a run, which are in `AddonBindings.Proofs.Native.Machine`.
-/

namespace AddonBindings.Native

variable {Number Other Answer : Type}

/-! ## The expected outcome -/

/-- What a call is given for a value, if the value is of the given type. -/
def ScriptValue.passed? : ScriptType → ScriptValue Number Other → Option (Passed Number)
  | .string, text value => some (.text value)
  | .number, number value => some (.number value)
  | _, _ => none

/-- The first parameter whose argument is not of its type. -/
def firstMisfit? (parameters : List ScriptParameter) (arguments : List (ScriptValue Number Other)) :
    Option ScriptParameter :=
  ((parameters.zip arguments).find? fun (parameter, value) =>
    (value.passed? parameter.type).isNone).map Prod.fst

def givenArguments (parameters : List ScriptParameter)
    (arguments : List (ScriptValue Number Other)) : List (Passed Number) :=
  (parameters.zip arguments).filterMap fun (parameter, value) => value.passed? parameter.type

/-- The effects that scripts expect: one error if there are too few arguments, else
one error for the first argument that is not of the type of its parameter, else one
call, and the return of its answer if the function has a result. -/
def outcome (go : String → List (Passed Number) → Answer) (functionName : String)
    (signature : ScriptSignature) (arguments : List (ScriptValue Number Other)) :
    List (Effect Number Answer) :=
  if arguments.length < signature.parameters.length then
    [.typeError ("Wrong number of arguments (expected " ++
      toString signature.parameters.length ++ ")")]
  else
    match firstMisfit? signature.parameters arguments with
    | some parameter => [.typeError (wrongType parameter)]
    | none =>
        let given := givenArguments signature.parameters arguments
        .called functionName given ::
          match signature.result with
          | none => []
          | some type => [.returned (returnValueOf type) (go functionName given)]

/-! ## Guards -/

variable (go : String → List (Passed Number) → Answer) {arguments : List (ScriptValue Number Other)}

/-- A callback that is running outside of every skipped block. -/
def running (locals : List (String × Held Number Answer)) : State Number Answer :=
  ⟨locals, 0, false⟩

/-- A callback that has been left. -/
def finished (locals : List (String × Held Number Answer)) : State Number Answer :=
  ⟨locals, 0, true⟩

def Condition.holds (arguments : List (ScriptValue Number Other)) : Condition → Bool
  | fewerArguments count => arguments.length < count.toNat
  | notText index => !arguments[index.toNat]?.any ScriptValue.isText
  | notNumber index => !arguments[index.toNat]?.any ScriptValue.isNumber

private theorem perform_condition (condition : Condition) (state : State Number Answer) :
    perform go arguments state condition.instruction =
      some ([], state.enterIf (condition.holds arguments)) := by
  cases condition <;> rfl

private theorem step_running (locals : List (String × Held Number Answer))
    (instruction : Instruction) :
    step go arguments (running locals) instruction =
      perform go arguments (running locals) instruction := rfl

private theorem held?_running (locals : List (String × Held Number Answer))
    (variableName : String) :
    (running locals).held? variableName = locals.lookup variableName := rfl

private theorem run_finished (locals : List (String × Held Number Answer))
    (instructions : List Instruction) :
    run go arguments (finished locals) instructions = some ([], finished locals) :=
  run_of_hasLeft rfl instructions

private theorem run_guardThat_of_not_holds {condition : Condition}
    (passes : condition.holds arguments = false)
    (message : String) (locals : List (String × Held Number Answer)) :
    run go arguments (running locals) (Statement.guardThat condition message).instructions =
      some ([], running locals) := by
  have opened : step go arguments (running locals) condition.instruction =
      some ([], ⟨locals, 1, false⟩) := by
    rw [step_running, perform_condition, passes]
    rfl
  simp [Statement.instructions, run, opened]
  simp [step, Instruction.depthAfter, running]

private theorem run_guardThat_of_holds {condition : Condition}
    (fails : condition.holds arguments = true)
    {locals : List (String × Held Number Answer)} (isolate : locals.lookup "isolate" = some .isolate)
    (message : String) :
    run go arguments (running locals) (Statement.guardThat condition message).instructions =
      some ([.typeError message], finished locals) := by
  have opened : step go arguments (running locals) condition.instruction =
      some ([], running locals) := by
    rw [step_running, perform_condition, fails]
    rfl
  have raised : step go arguments (running locals) (.raise message) =
      some ([.typeError message], running locals) := by
    simp [step_running, perform, held?_running, isolate]
  have left : step go arguments (running locals) .leave = some ([], finished locals) := by
    rw [step_running]
    rfl
  have closed : run go arguments (finished locals) [.close] = some ([], finished locals) :=
    run_finished go locals [.close]
  have inside := run_append (run_singleton opened) (run_append (run_singleton raised)
    (run_append (run_singleton left) closed))
  simpa [Statement.instructions] using inside

private theorem run_argumentCountCheck_of_lt {count : Nat} (fewer : arguments.length < count)
    {locals : List (String × Held Number Answer)} (isolate : locals.lookup "isolate" = some .isolate) :
    run go arguments (running locals) (argumentCountCheck count).instructions =
      some ([.typeError ("Wrong number of arguments (expected " ++ toString count ++ ")")],
        finished locals) := by
  have fails : (Condition.fewerArguments count).holds arguments = true :=
    decide_eq_true fewer
  exact run_guardThat_of_holds go fails isolate _

private theorem run_argumentCountCheck_of_le {count : Nat} (enough : count ≤ arguments.length)
    (locals : List (String × Held Number Answer)) :
    run go arguments (running locals) (argumentCountCheck count).instructions =
      some ([], running locals) := by
  have passes : (Condition.fewerArguments count).holds arguments = false :=
    decide_eq_false (Nat.not_lt_of_le enough)
  exact run_guardThat_of_not_holds go passes _ locals

private theorem holds_typeTest {index : Nat} {value : ScriptValue Number Other}
    (given : arguments[index]? = some value) (type : ScriptType) :
    (typeTest type index).holds arguments = (value.passed? type).isNone := by
  cases type <;> cases value <;> simp [typeTest, Condition.holds, given, ScriptValue.passed?,
    ScriptValue.isText, ScriptValue.isNumber]

private theorem drop_eq_cons {first : Nat} (enough : first < arguments.length) :
    ∃ value, arguments[first]? = some value ∧
      arguments.drop first = value :: arguments.drop (first + 1) :=
  ⟨arguments[first], List.getElem?_eq_getElem enough, List.drop_eq_getElem_cons enough⟩

/-- The guards on the types: nothing if every argument is of the type of its
parameter, else one error for the first that is not. -/
theorem run_typeGuards {parameters : List ScriptParameter}
    {locals : List (String × Held Number Answer)} (isolate : locals.lookup "isolate" = some .isolate)
    {first : Nat} (enough : first + parameters.length ≤ arguments.length) :
    run go arguments (running locals)
        ((typeGuards parameters first).flatMap Statement.instructions) =
      match firstMisfit? parameters (arguments.drop first) with
      | some parameter => some ([.typeError (wrongType parameter)], finished locals)
      | none => some ([], running locals) := by
  induction parameters generalizing first with
  | nil => simp [typeGuards, firstMisfit?, run]
  | cons parameter rest inductionHypothesis =>
      rw [List.length_cons] at enough
      have isGiven : first < arguments.length := by omega
      have othersGiven : first + 1 + rest.length ≤ arguments.length := by omega
      obtain ⟨value, given, dropped⟩ := drop_eq_cons isGiven
      have others := inductionHypothesis othersGiven
      have tested := holds_typeTest given parameter.type
      rw [typeGuards, List.flatMap_cons, dropped]
      cases fits : (value.passed? parameter.type).isNone with
      | true =>
          -- the first misfit leaves the callback, and the other guards are not reached
          rw [fits] at tested
          have left := run_guardThat_of_holds go tested isolate (wrongType parameter)
          rw [run_append left (run_finished go locals _)]
          simp [firstMisfit?, fits]
      | false =>
          rw [fits] at tested
          have passed := run_guardThat_of_not_holds go tested (wrongType parameter) locals
          have same : firstMisfit? (parameter :: rest) (value :: arguments.drop (first + 1)) =
              firstMisfit? rest (arguments.drop (first + 1)) := by
            simp [firstMisfit?, fits]
          rw [same]
          cases misfit : firstMisfit? rest (arguments.drop (first + 1)) with
          | none =>
              rw [misfit] at others
              exact run_append passed others
          | some found =>
              rw [misfit] at others
              exact run_append passed others

/-! ## Conversions -/

/-- The variables that the conversion of one argument declares. -/
def localsOf (pair : ScriptParameter × ScriptValue Number Other) : List (String × Held Number Answer) :=
  let name := localName pair.1.toParameter
  match pair.1.type, pair.2 with
  | .string, .text value => [(Statement.textHolder name, .text value), (name, .passed (.text value))]
  | .number, .number value => [(name, .passed (.number value))]
  | _, _ => []

private theorem declare_running {locals : List (String × Held Number Answer)}
    {variableName : String}
    (fresh : variableName ∉ locals.map Prod.fst) (held : Held Number Answer) :
    (running locals).declare variableName held =
      some (running (locals ++ [(variableName, held)])) :=
  if_neg fresh

private theorem fresh_of_nodup {locals rest : List (String × Held Number Answer)}
    {variableName : String}
    {held : Held Number Answer}
    (apart : ((locals ++ (variableName, held) :: rest).map Prod.fst).Nodup) :
    variableName ∉ locals.map Prod.fst := by
  rw [List.map_append, List.map_cons, List.nodup_middle, List.nodup_cons] at apart
  exact fun member => apart.1 (List.mem_append_left _ member)

private theorem lookup_append_singleton {locals : List (String × Held Number Answer)}
    {variableName : String}
    (fresh : variableName ∉ locals.map Prod.fst) (held : Held Number Answer) :
    (locals ++ [(variableName, held)]).lookup variableName = some held := by
  rw [List.lookup_append, Traversal.lookup_eq_none_of_not_mem fresh, List.lookup_cons_self,
    Option.none_or]

private theorem run_takeText {index : Nat} {value : String}
    (given : arguments[index]? = some (.text value)) {variableName : String}
    {locals : List (String × Held Number Answer)}
    (holderFresh : Statement.textHolder variableName ∉ locals.map Prod.fst)
    (fresh : variableName ∉
      (locals ++ [(Statement.textHolder variableName, Held.text value)]).map Prod.fst) :
    run go arguments (running locals) (Statement.takeText variableName index).instructions =
      some ([], running (locals ++ [(Statement.textHolder variableName, .text value)] ++
        [(variableName, .passed (.text value))])) := by
  have held : step go arguments (running locals)
      (.holdText (Statement.textHolder variableName) index) =
        some ([], running (locals ++ [(Statement.textHolder variableName, .text value)])) := by
    rw [step_running]
    simp only [perform, given]
    rw [declare_running holderFresh, Option.map_some]
  have pointed : step go arguments
      (running (locals ++ [(Statement.textHolder variableName, .text value)]))
      (.pointTo variableName (Statement.textHolder variableName)) =
        some ([], running (locals ++ [(Statement.textHolder variableName, .text value)] ++
          [(variableName, .passed (.text value))])) := by
    rw [step_running]
    simp only [perform, held?_running, lookup_append_singleton holderFresh]
    rw [declare_running fresh, Option.map_some]
  exact run_append (run_singleton held) (run_singleton pointed)

private theorem run_takeNumber {index : Nat} {value : Number}
    (given : arguments[index]? = some (.number value)) {variableName : String}
    {locals : List (String × Held Number Answer)} (fresh : variableName ∉ locals.map Prod.fst) :
    run go arguments (running locals) (Statement.takeNumber variableName index).instructions =
      some ([], running (locals ++ [(variableName, .passed (.number value))])) := by
  have taken : step go arguments (running locals) (.takeNumber variableName index) =
      some ([], running (locals ++ [(variableName, .passed (.number value))])) := by
    rw [step_running]
    simp only [perform, given]
    rw [declare_running fresh, Option.map_some]
  exact run_singleton taken

private theorem run_argumentConversion {parameter : ScriptParameter}
    {value : ScriptValue Number Other}
    {index : Nat} (given : arguments[index]? = some value)
    (fits : (value.passed? parameter.type).isNone = false)
    {locals : List (String × Held Number Answer)}
    (apart : ((locals ++ localsOf (parameter, value)).map Prod.fst).Nodup) :
    run go arguments (running locals)
        (argumentConversion index parameter.toParameter).instructions =
      some ([], running (locals ++ localsOf (parameter, value))) := by
  obtain ⟨name, type⟩ := parameter
  cases type with
  | string =>
      cases value with
      | text value =>
          have holderFresh := fresh_of_nodup apart
          have split : locals ++ localsOf (⟨name, .string⟩, (.text value : ScriptValue Number Other)) =
              locals ++ [(Statement.textHolder (localName ⟨name, some .text⟩), .text value)] ++
                [(localName ⟨name, some .text⟩, .passed (.text value))] := by
            rw [List.append_assoc]
            rfl
          rw [split] at apart ⊢
          exact run_takeText go given holderFresh (fresh_of_nodup apart)
      | number value => cases fits
      | other value => cases fits
  | number =>
      cases value with
      | number value => exact run_takeNumber go given (fresh_of_nodup apart)
      | text value => cases fits
      | other value => cases fits

/-- The variables that the conversions of all arguments declare. -/
def localsOfAll (parameters : List ScriptParameter) (values : List (ScriptValue Number Other)) :
    List (String × Held Number Answer) :=
  (parameters.zip values).flatMap localsOf

private theorem firstMisfit?_cons_eq_none {parameter : ScriptParameter}
    {rest : List ScriptParameter}
    {value : ScriptValue Number Other} {values : List (ScriptValue Number Other)}
    (none : firstMisfit? (parameter :: rest) (value :: values) = none) :
    (value.passed? parameter.type).isNone = false ∧ firstMisfit? rest values = .none := by
  cases fits : (value.passed? parameter.type).isNone with
  | true => simp [firstMisfit?, fits] at none
  | false =>
      refine ⟨rfl, ?_⟩
      simpa [firstMisfit?, fits] using none

/-- If every argument is of the type of its parameter, the conversions declare the
variables of all arguments. -/
theorem run_conversions {parameters : List ScriptParameter}
    {locals : List (String × Held Number Answer)} {first : Nat}
    (enough : first + parameters.length ≤ arguments.length)
    (fit : firstMisfit? parameters (arguments.drop first) = none)
    (apart : ((locals ++ localsOfAll parameters (arguments.drop first)).map Prod.fst).Nodup) :
    run go arguments (running locals)
        ((conversions parameters first).flatMap Statement.instructions) =
      some ([], running (locals ++ localsOfAll parameters (arguments.drop first))) := by
  induction parameters generalizing first locals with
  | nil => simp [conversions, localsOfAll, run]
  | cons parameter rest inductionHypothesis =>
      rw [List.length_cons] at enough
      have isGiven : first < arguments.length := by omega
      have othersGiven : first + 1 + rest.length ≤ arguments.length := by omega
      obtain ⟨value, given, dropped⟩ := drop_eq_cons isGiven
      rw [dropped] at fit
      obtain ⟨fits, others⟩ := firstMisfit?_cons_eq_none fit
      have split : (localsOfAll (parameter :: rest) (arguments.drop first) :
            List (String × Held Number Answer)) =
          localsOf (parameter, value) ++ localsOfAll rest (arguments.drop (first + 1)) := by
        rw [dropped]
        rfl
      rw [split, ← List.append_assoc] at apart ⊢
      have front : ((locals ++ localsOf (parameter, value)).map Prod.fst).Nodup := by
        rw [List.map_append] at apart
        exact (List.nodup_append.mp apart).1
      have converted := run_argumentConversion go given fits front
      have back := inductionHypothesis othersGiven others apart
      rw [conversions, List.flatMap_cons]
      exact run_append converted back

/-! ## The call and the result -/

private theorem passed?_of_mem {locals : List (String × Held Number Answer)}
    (apart : (locals.map Prod.fst).Nodup) {variableName : String} {value : Passed Number}
    (member : (variableName, .passed value) ∈ locals) :
    (running locals).passed? variableName = some value := by
  rw [State.passed?, held?_running, Traversal.lookup_eq_some_of_mem apart member]

private theorem mem_localsOf {parameter : ScriptParameter} {value : ScriptValue Number Other}
    {converted : Passed Number} (passes : value.passed? parameter.type = some converted) :
    (localName parameter.toParameter, (.passed converted : Held Number Answer)) ∈
      localsOf (parameter, value) := by
  obtain ⟨name, type⟩ := parameter
  cases type <;> cases value <;> cases passes <;> simp [localsOf]

/-- The variables of the arguments hold the conversions of the arguments. -/
theorem mapM_passed? {locals : List (String × Held Number Answer)}
    (apart : (locals.map Prod.fst).Nodup) {parameters : List ScriptParameter}
    {values : List (ScriptValue Number Other)} (enough : parameters.length ≤ values.length)
    (fit : firstMisfit? parameters values = none)
    (declared : ∀ entry ∈ localsOfAll parameters values, entry ∈ locals) :
    (parameters.map fun parameter => localName parameter.toParameter).mapM (running locals).passed? =
      some (givenArguments parameters values) := by
  induction parameters generalizing values with
  | nil => rfl
  | cons parameter rest inductionHypothesis =>
      cases values with
      | nil => simp at enough
      | cons value values =>
          obtain ⟨fits, others⟩ := firstMisfit?_cons_eq_none fit
          have back := inductionHypothesis (by simpa using enough) others
            (fun entry member => declared entry (List.mem_append_right _ member))
          obtain ⟨converted, passes⟩ := Option.isSome_iff_exists.mp (Option.isNone_eq_false_iff.mp fits)
          have found := passed?_of_mem apart
            (declared _ (List.mem_append_left _ (mem_localsOf passes)))
          have given : givenArguments (parameter :: rest) (value :: values) =
              converted :: givenArguments rest values := by
            simp [givenArguments, passes]
          rw [List.map_cons, List.mapM_cons, found, back, given]
          rfl

private theorem map_fst_localsOfAll {parameters : List ScriptParameter}
    {values : List (ScriptValue Number Other)} (enough : parameters.length ≤ values.length)
    (fit : firstMisfit? parameters values = none) (first : Nat) :
    (localsOfAll parameters values : List (String × Held Number Answer)).map Prod.fst =
      (conversions parameters first).flatMap Statement.declares := by
  induction parameters generalizing values first with
  | nil => rfl
  | cons parameter rest inductionHypothesis =>
      cases values with
      | nil => simp at enough
      | cons value values =>
          obtain ⟨fits, others⟩ := firstMisfit?_cons_eq_none fit
          have back := inductionHypothesis (by simpa using enough) others (first + 1)
          have one : (localsOf (parameter, value) : List (String × Held Number Answer)).map Prod.fst =
              (argumentConversion first parameter.toParameter).declares := by
            obtain ⟨name, type⟩ := parameter
            cases type <;> cases value <;> cases fits <;> rfl
          rw [conversions, List.flatMap_cons, ← one, ← back, ← List.map_append]
          rfl

private theorem run_call {locals : List (String × Held Number Answer)} {functionName : String}
    (unhidden : functionName ∉ locals.map Prod.fst) {names : List String}
    {given : List (Passed Number)} (passes : names.mapM (running locals).passed? = some given) :
    run go arguments (running locals) [.call none functionName names] =
      some ([.called functionName given], running locals) := by
  have called : step go arguments (running locals) (.call none functionName names) =
      some ([.called functionName given], running locals) := by
    rw [step_running]
    simp only [perform, held?_running, Traversal.lookup_eq_none_of_not_mem unhidden, passes]
  exact run_singleton called

private theorem run_call_result (arguments : List (ScriptValue Number Other))
    {locals : List (String × Held Number Answer)} {functionName : String}
    (unhidden : functionName ∉ locals.map Prod.fst)
    (resultFresh : "result" ∉ locals.map Prod.fst) (nodeResultFresh : "nodeResult" ∉ locals.map Prod.fst)
    {names : List String} {given : List (Passed Number)}
    (passes : names.mapM (running locals).passed? = some given) (value : ReturnValue) :
    ∃ final, run go arguments (running locals)
        (.call (some "result") functionName names :: (Statement.giveBack value).instructions) =
      some ([.called functionName given, .returned value (go functionName given)], final) := by
  have called : step go arguments (running locals) (.call (some "result") functionName names) =
      some ([.called functionName given],
        running (locals ++ [("result", .answer (go functionName given))])) := by
    rw [step_running]
    simp only [perform, held?_running, Traversal.lookup_eq_none_of_not_mem unhidden, passes]
    rw [declare_running resultFresh, Option.map_some]
  have fresh : "nodeResult" ∉
      (locals ++ [("result", Held.answer (go functionName given))]).map Prod.fst := by
    simp only [List.map_append, List.map_cons, List.map_nil, List.mem_append, List.mem_singleton]
    rintro (inLocals | same)
    · exact nodeResultFresh inLocals
    · exact absurd same (by decide)
  have converted : step go arguments
      (running (locals ++ [("result", .answer (go functionName given))]))
      (.convert "nodeResult" value "result") =
        some ([], running (locals ++ [("result", .answer (go functionName given))] ++
          [("nodeResult", .converted value (go functionName given))])) := by
    rw [step_running]
    simp only [perform, held?_running, lookup_append_singleton resultFresh]
    rw [declare_running fresh, Option.map_some]
  have returned : step go arguments
      (running (locals ++ [("result", .answer (go functionName given))] ++
        [("nodeResult", .converted value (go functionName given))]))
      (.giveBack "nodeResult") =
        some ([.returned value (go functionName given)],
          running (locals ++ [("result", .answer (go functionName given))] ++
            [("nodeResult", .converted value (go functionName given))])) := by
    rw [step_running]
    simp only [perform, held?_running, lookup_append_singleton fresh]
  exact ⟨_, run_append (run_singleton called)
    (run_append (run_singleton converted) (run_singleton returned))⟩

/-! ## The whole callback -/

/-- The names that must not collide in a callback: the function that it calls, its
arguments and its local variables. -/
def namesInScope (functionName : String) (body : List Statement) : List String :=
  functionName :: "args" :: body.flatMap Statement.declares

/-- The names that the body of a callback uses or declares. -/
theorem namesInScope_bodyOf (functionName : String) (signature : ScriptSignature) :
    namesInScope functionName (bodyOf functionName signature) =
      functionName :: (["args", "isolate", "scope"] ++
        ((conversions signature.parameters 0).flatMap Statement.declares ++
          if signature.result.isSome then ["result", "nodeResult"] else [])) := by
  have guards : (typeGuards signature.parameters 0).flatMap Statement.declares = [] := by
    rw [List.flatMap_eq_nil_iff]
    intro statement member
    obtain ⟨parameter, -, index, rfl⟩ := exists_of_mem_typeGuards member
    rfl
  cases result : signature.result <;>
    simp [namesInScope, bodyOf, Statement.declares, guards, argumentCountCheck, resultStatements,
      result]

/-- The variables before the first guard. -/
def openingLocals : List (String × Held Number Answer) :=
  [("args", .arguments), ("isolate", .isolate), ("scope", .scope)]

private theorem run_opening :
    run go arguments .start [.takeIsolate, .openScope] = some ([], running openingLocals) := rfl

private theorem map_fst_converted {signature : ScriptSignature}
    (enough : signature.parameters.length ≤ arguments.length)
    (fit : firstMisfit? signature.parameters arguments = none) :
    (openingLocals ++ localsOfAll signature.parameters arguments :
        List (String × Held Number Answer)).map Prod.fst =
      ["args", "isolate", "scope"] ++
        (conversions signature.parameters 0).flatMap Statement.declares := by
  rw [List.map_append, map_fst_localsOfAll enough fit 0]
  rfl

private theorem run_delegation {functionName : String} {signature : ScriptSignature}
    (apart : (namesInScope functionName (bodyOf functionName signature)).Nodup)
    (enough : signature.parameters.length ≤ arguments.length)
    (fit : firstMisfit? signature.parameters arguments = none)
    {locals : List (String × Held Number Answer)}
    (keys : locals.map Prod.fst = ["args", "isolate", "scope"] ++
      (conversions signature.parameters 0).flatMap Statement.declares)
    (declared : ∀ entry ∈ localsOfAll signature.parameters arguments, entry ∈ locals) :
    ∃ final, run go arguments (running locals)
        (.call (if signature.result.isSome then some "result" else none) functionName
            (signature.parameters.map fun parameter => localName parameter.toParameter) ::
          (resultStatements signature.result).flatMap Statement.instructions) =
      some (outcome go functionName signature arguments, final) := by
  rw [namesInScope_bodyOf, ← List.append_assoc, ← keys, List.nodup_cons] at apart
  obtain ⟨unhidden, apart⟩ := apart
  obtain ⟨localsApart, -, separate⟩ := List.nodup_append.mp apart
  have hidden : functionName ∉ locals.map Prod.fst :=
    fun member => unhidden (List.mem_append_left _ member)
  have passes := mapM_passed? localsApart enough fit declared
  have notFewer : ¬ arguments.length < signature.parameters.length := Nat.not_lt_of_le enough
  cases result : signature.result with
  | none =>
      have called : run go arguments (running locals) [.call none functionName _] = _ :=
        run_call go hidden passes
      exact ⟨_, by simpa [outcome, notFewer, fit, result, resultStatements] using called⟩
  | some type =>
      rw [result] at separate
      have resultFresh : "result" ∉ locals.map Prod.fst :=
        fun member => separate _ member "result" (by simp) rfl
      have nodeResultFresh : "nodeResult" ∉ locals.map Prod.fst :=
        fun member => separate _ member "nodeResult" (by simp) rfl
      obtain ⟨final, called⟩ := run_call_result go arguments hidden resultFresh nodeResultFresh
        passes (returnValueOf type)
      exact ⟨final, by simpa [outcome, notFewer, fit, result, resultStatements] using called⟩

/-- A callback does what scripts expect of its function. -/
theorem execute_bodyOf {functionName : String} {signature : ScriptSignature}
    (apart : (namesInScope functionName (bodyOf functionName signature)).Nodup) :
    execute go arguments ((bodyOf functionName signature).flatMap Statement.instructions) =
      some (outcome go functionName signature arguments) := by
  have isolate : (openingLocals : List (String × Held Number Answer)).lookup "isolate" =
      some .isolate := rfl
  rw [execute, flatMap_instructions_bodyOf]
  -- the three ends of a callback: at the count, at a type, or at the call
  by_cases fewer : arguments.length < signature.parameters.length
  · have counted := run_append (run_opening go) (run_argumentCountCheck_of_lt go fewer isolate)
    rw [run_append counted (run_finished go openingLocals _)]
    simp [outcome, fewer]
  · have enough : 0 + signature.parameters.length ≤ arguments.length := by omega
    have counted := run_append (run_opening go)
      (run_argumentCountCheck_of_le go (Nat.le_of_not_lt fewer) openingLocals)
    have tested := run_typeGuards go isolate enough
    rw [List.drop_zero] at tested
    cases misfit : firstMisfit? signature.parameters arguments with
    | some parameter =>
        rw [misfit] at tested
        rw [run_append counted (run_append tested (run_finished go openingLocals _))]
        simp [outcome, fewer, misfit]
    | none =>
        rw [misfit] at tested
        have keys : (openingLocals ++ localsOfAll signature.parameters arguments :
            List (String × Held Number Answer)).map Prod.fst = _ :=
          map_fst_converted (Nat.le_of_not_lt fewer) misfit
        have apartNames := apart
        rw [namesInScope_bodyOf, ← List.append_assoc, List.nodup_cons, ← keys] at apartNames
        have convertedApart := (List.nodup_append.mp apartNames.2).1
        have converted := run_conversions go enough (by rwa [List.drop_zero])
          (by rwa [List.drop_zero])
        rw [List.drop_zero] at converted
        obtain ⟨final, delegated⟩ := run_delegation go apart (Nat.le_of_not_lt fewer) misfit keys
          (fun entry member => List.mem_append_right _ member)
        rw [run_append counted (run_append tested (run_append converted delegated))]
        simp

/-- The run-time meaning of a generated callback.  For every record whose names are
words and whose types cross the boundary, if the names in its callback do not collide:
the text of the callback is read as one callback, and for every list of arguments its
run has exactly the outcome that scripts expect. -/
theorem execute_wrapper_eq_outcome {function : ExportedFunction} (bindable : IsBindable function)
    (apart : (namesInScope function.name (bodyFor function)).Nodup)
    (go : String → List (Passed Number) → Answer) (arguments : List (ScriptValue Number Other)) :
    ∃ signature lines instructions,
      function.signature? = some signature ∧
      wrapper function = .ok lines ∧
      callbacks (Text.phrases (Text.tokens (Text.fileText lines))) =
        [(wrapperName function, instructions)] ∧
      execute go arguments instructions =
        some (outcome go function.name signature arguments) := by
  obtain ⟨signature, stated⟩ := bindable.exists_signature?
  have made := wrapper_eq_of_isBindable bindable
  have body : bodyFor function = bodyOf function.name signature := by
    rw [bodyFor, stated]
    rfl
  have found := callbacks_wrapperLines bindable.named (isReadable_bodyFor bindable)
  refine ⟨signature, _, (bodyFor function).flatMap Statement.instructions, stated, made, found, ?_⟩
  rw [body] at apart ⊢
  exact execute_bodyOf go apart

def repeatText : ExportedFunction :=
  { name := "Repeat", parameters := [⟨"text", some .text⟩, ⟨"count", some .numeric⟩],
    result := some .text }

theorem execute_repeatText :
    ∃ lines instructions,
      wrapper repeatText = .ok lines ∧
      callbacks (Text.phrases (Text.tokens (Text.fileText lines))) =
        [("Repeat_Func", instructions)] ∧
      execute (fun _ given => given.length)
          [.text "ab", .number 3, (.other () : ScriptValue Int Unit)] instructions =
        some [.called "Repeat" [.text "ab", .number 3], .returned .text 2] := by
  have bindable : IsBindable repeatText := ⟨by decide, by decide, by decide, by decide⟩
  obtain ⟨signature, lines, instructions, stated, made, found, ran⟩ :=
    execute_wrapper_eq_outcome bindable (by decide) (fun _ given => given.length)
      [.text "ab", .number 3, (.other () : ScriptValue Int Unit)]
  cases stated
  exact ⟨lines, instructions, made, found, ran⟩

end AddonBindings.Native
