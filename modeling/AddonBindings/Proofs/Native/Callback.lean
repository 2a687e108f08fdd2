import AddonBindings.Proofs.Native.StatementReading
import AddonBindings.Proofs.Signature

/-!
Contract: the body of a generated callback, parameter by parameter.

Owns:
- the statements of the callback of a signature;
- that a function with a signature has a callback with these statements;
- that they can be read back if the names in the signature are words.

Does not own:
- what the instructions do, which is in `AddonBindings.Proofs.Native.Execution`;
- the file around the callbacks, which is in `AddonBindings.Proofs.Native.SourceReading`.
-/

namespace AddonBindings.Native

open Text

/-! ## The body for a signature -/

def typeTest : ScriptType → Nat → Condition
  | .string, index => .notText index
  | .number, index => .notNumber index

/-- The message about an argument that is not of the type of its parameter. -/
def wrongType (parameter : ScriptParameter) : String :=
  wrongTypeMessage parameter.toParameter parameter.type.word

/-- The guards on the arguments from position `first` on. -/
def typeGuards : List ScriptParameter → (first : Nat) → List Statement
  | [], _ => []
  | parameter :: rest, first =>
      .guardThat (typeTest parameter.type first) (wrongType parameter) :: typeGuards rest (first + 1)

/-- The conversions of the arguments from position `first` on. -/
def conversions : List ScriptParameter → (first : Nat) → List Statement
  | [], _ => []
  | parameter :: rest, first =>
      argumentConversion first parameter.toParameter :: conversions rest (first + 1)

def returnValueOf : ScriptType → ReturnValue
  | .string => .text
  | .number => .number

def resultStatements : Option ScriptType → List Statement
  | none => []
  | some type => [.giveBack (returnValueOf type)]

def bodyOf (functionName : String) (signature : ScriptSignature) : List Statement :=
  [.declareIsolate, .declareScope, .blank, .remark "Check the number of arguments passed.",
      argumentCountCheck signature.parameters.length] ++
    typeGuards signature.parameters 0 ++ [.blank] ++ conversions signature.parameters 0 ++
    [.blank, .remark "Call the function exported from Go.",
      .call functionName (signature.parameters.map fun parameter => localName parameter.toParameter)
        signature.result.isSome] ++
    resultStatements signature.result

private theorem mapM_argumentTypeCheck (parameters : List ScriptParameter) (first : Nat) :
    (((parameters.map ScriptParameter.toParameter).zipIdx first).map
        fun (parameter, index) => (Int.ofNat index, parameter)).mapM
      (fun (index, parameter) => argumentTypeCheck index parameter) =
        .ok (typeGuards parameters first) := by
  induction parameters generalizing first with
  | nil => rfl
  | cons parameter rest inductionHypothesis =>
      have one : argumentTypeCheck (Int.ofNat first) parameter.toParameter =
          .ok (.guardThat (typeTest parameter.type first) (wrongType parameter)) := by
        obtain ⟨name, type⟩ := parameter
        cases type <;> rfl
      rw [List.map_cons, List.zipIdx_cons, List.map_cons]
      exact Traversal.mapM_cons_eq_ok_iff.mpr ⟨_, _, one, inductionHypothesis (first + 1), rfl⟩

private theorem map_argumentConversion (parameters : List ScriptParameter) (first : Nat) :
    (((parameters.map ScriptParameter.toParameter).zipIdx first).map
        fun (parameter, index) => (Int.ofNat index, parameter)).map
      (fun (index, parameter) => argumentConversion index parameter) =
        conversions parameters first := by
  induction parameters generalizing first with
  | nil => rfl
  | cons parameter rest inductionHypothesis =>
      rw [List.map_cons, List.zipIdx_cons, List.map_cons, List.map_cons,
        inductionHypothesis (first + 1)]
      rfl

theorem exists_of_mem_typeGuards {parameters : List ScriptParameter} {first : Nat}
    {statement : Statement} (member : statement ∈ typeGuards parameters first) :
    ∃ parameter ∈ parameters, ∃ index,
      statement = .guardThat (typeTest parameter.type index) (wrongType parameter) := by
  induction parameters generalizing first with
  | nil => cases member
  | cons parameter rest inductionHypothesis =>
      rcases List.mem_cons.mp member with rfl | inRest
      · exact ⟨parameter, List.mem_cons_self, first, rfl⟩
      · obtain ⟨other, inOthers, same⟩ := inductionHypothesis inRest
        exact ⟨other, List.mem_cons_of_mem _ inOthers, same⟩

theorem exists_of_mem_conversions {parameters : List ScriptParameter} {first : Nat}
    {statement : Statement} (member : statement ∈ conversions parameters first) :
    ∃ parameter ∈ parameters, ∃ index : Nat,
      statement = argumentConversion index parameter.toParameter := by
  induction parameters generalizing first with
  | nil => cases member
  | cons parameter rest inductionHypothesis =>
      rcases List.mem_cons.mp member with rfl | inRest
      · exact ⟨parameter, List.mem_cons_self, first, rfl⟩
      · obtain ⟨other, inOthers, same⟩ := inductionHypothesis inRest
        exact ⟨other, List.mem_cons_of_mem _ inOthers, same⟩

private theorem returnConversion_map_boundary (result : Option ScriptType) :
    returnConversion (result.map ScriptType.boundary) = .ok (resultStatements result) := by
  cases result with
  | none => rfl
  | some type => cases type <;> rfl

/-- A function with a signature has a callback, and its body is the one of the
signature. -/
theorem wrapperBody_eq_bodyOf {function : ExportedFunction} {signature : ScriptSignature}
    (stated : function.signature? = some signature) :
    wrapperBody function = .ok (bodyOf function.name signature) := by
  obtain ⟨-, parameters, result⟩ := ExportedFunction.of_signature? stated
  have returned := returnConversion_map_boundary signature.result
  have checks := mapM_argumentTypeCheck signature.parameters 0
  have converted := map_argumentConversion signature.parameters 0
  have count : function.arity = signature.parameters.length := by
    rw [ExportedFunction.arity, parameters, List.length_map]
  have kept : (signature.result.map ScriptType.boundary).isSome = signature.result.isSome :=
    Option.isSome_map
  rw [← parameters] at checks converted
  simp only [wrapperBody, indexed, delegateCall, result, returned, checks, converted, count, kept]
  simp [bodyOf, Except.mapError, bind, Except.bind, pure, Except.pure, parameters,
    Function.comp_def]

/-- A callback checks the number of arguments and their types, converts them, calls
the function and returns, in this order. -/
theorem flatMap_instructions_bodyOf (functionName : String) (signature : ScriptSignature) :
    (bodyOf functionName signature).flatMap Statement.instructions =
      [.takeIsolate, .openScope] ++
        (argumentCountCheck signature.parameters.length).instructions ++
        ((typeGuards signature.parameters 0).flatMap Statement.instructions ++
          ((conversions signature.parameters 0).flatMap Statement.instructions ++
            (.call (if signature.result.isSome then some "result" else none) functionName
                (signature.parameters.map fun parameter => localName parameter.toParameter) ::
              (resultStatements signature.result).flatMap Statement.instructions))) := by
  simp [bodyOf, Statement.instructions]

/-! ## Readable bodies -/

theorem all_isQuotable_append (front back : String) :
    (front ++ back).toList.all Reading.isQuotable =
      (front.toList.all Reading.isQuotable && back.toList.all Reading.isQuotable) := by
  rw [String.toList_append, List.all_append]

theorem all_isQuotable_of_isWord {text : String} (word : isWord text = true) :
    text.toList.all Reading.isQuotable = true :=
  List.all_eq_true.mpr fun c member =>
    Reading.isQuotable_of_isWordCharacter ((isWord_iff.mp word).2 c member)

private theorem isReadable_argumentCountCheck (count : Nat) :
    (argumentCountCheck count).isReadable = true := by
  have digits := all_isQuotable_of_isWord (isWord_repr count)
  have front : "Wrong number of arguments (expected ".toList.all Reading.isQuotable = true := by
    decide
  have back : ")".toList.all Reading.isQuotable = true := by decide
  have message : ("Wrong number of arguments (expected " ++ Nat.repr count ++ ")").toList.all
      Reading.isQuotable = true := by
    simp only [all_isQuotable_append, front, digits, back, Bool.and_self]
  have natural : (Condition.fewerArguments count).isNatural = true :=
    decide_eq_true (Int.natCast_nonneg count)
  exact Bool.and_eq_true_iff.mpr ⟨natural, message⟩

private theorem isReadable_typeGuards {parameters : List ScriptParameter}
    (named : ∀ parameter ∈ parameters, isWord parameter.name = true) (first : Nat) :
    ∀ statement ∈ typeGuards parameters first, statement.isReadable = true := by
  intro statement member
  obtain ⟨parameter, inParameters, index, rfl⟩ := exists_of_mem_typeGuards member
  have name := all_isQuotable_of_isWord (named parameter inParameters)
  have front : "Wrong type for argument '".toList.all Reading.isQuotable = true := by
    decide
  have middle : "' (expected ".toList.all Reading.isQuotable = true := by decide
  have word : parameter.type.word.toList.all Reading.isQuotable = true := by
    cases parameter.type <;> decide
  have back : ")".toList.all Reading.isQuotable = true := by decide
  have message : (wrongType parameter).toList.all Reading.isQuotable = true := by
    show ("Wrong type for argument '" ++ parameter.name ++ "' (expected " ++
      parameter.type.word ++ ")").toList.all Reading.isQuotable = true
    simp only [all_isQuotable_append, front, name, middle, word, back, Bool.and_self]
  have natural : (typeTest parameter.type index).isNatural = true := by
    cases parameter.type <;> exact decide_eq_true (Int.natCast_nonneg index)
  exact Bool.and_eq_true_iff.mpr ⟨natural, message⟩

private theorem isWord_localName {parameter : ScriptParameter}
    (named : isWord parameter.name = true) :
    isWord (localName parameter.toParameter) = true :=
  isWord_append (by decide) (isWord_iff.mp named).2

private theorem isReadable_conversions {parameters : List ScriptParameter}
    (named : ∀ parameter ∈ parameters, isWord parameter.name = true) (first : Nat) :
    ∀ statement ∈ conversions parameters first, statement.isReadable = true := by
  intro statement member
  obtain ⟨parameter, inParameters, index, rfl⟩ := exists_of_mem_conversions member
  have name := isWord_localName (named parameter inParameters)
  have natural : decide (0 ≤ (index : Int)) = true := decide_eq_true (Int.natCast_nonneg index)
  obtain ⟨text, type⟩ := parameter
  cases type <;> exact Bool.and_eq_true_iff.mpr ⟨name, natural⟩

theorem isReadable_bodyOf {functionName : String} {signature : ScriptSignature}
    (names : NamesAreWords functionName signature) :
    ∀ statement ∈ bodyOf functionName signature, statement.isReadable = true := by
  have count := isReadable_argumentCountCheck signature.parameters.length
  have guards := isReadable_typeGuards names.parameters 0
  have converted := isReadable_conversions names.parameters 0
  have arguments : (signature.parameters.map fun parameter =>
      localName parameter.toParameter).all isWord = true := by
    rw [List.all_map, List.all_eq_true]
    exact fun parameter member => isWord_localName (names.parameters parameter member)
  have called : (Statement.call functionName (signature.parameters.map fun parameter =>
      localName parameter.toParameter) signature.result.isSome).isReadable = true :=
    Bool.and_eq_true_iff.mpr ⟨names.function, arguments⟩
  have checkRemark :
      (Statement.remark "Check the number of arguments passed.").isReadable = true := by
    decide
  have callRemark :
      (Statement.remark "Call the function exported from Go.").isReadable = true := by
    decide
  have returned : ∀ statement ∈ resultStatements signature.result, statement.isReadable = true := by
    cases signature.result with
    | none => simp [resultStatements]
    | some type => simp [resultStatements, Statement.isReadable]
  intro statement member
  simp only [bodyOf, List.mem_append, List.mem_cons, List.not_mem_nil, or_false] at member
  rcases member with ((((opening | inGuards) | rfl) | inConversions) | calls) | inResult
  · rcases opening with rfl | rfl | rfl | rfl | rfl
    · rfl
    · rfl
    · rfl
    · exact checkRemark
    · exact count
  · exact guards statement inGuards
  · rfl
  · exact converted statement inConversions
  · rcases calls with rfl | rfl | rfl
    · rfl
    · exact callRemark
    · exact called
  · exact returned statement inResult

end AddonBindings.Native
