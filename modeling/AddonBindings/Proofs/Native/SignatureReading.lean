import Mathlib.Data.List.Nodup
import AddonBindings.Proofs.Native.SourceReading

/-!
Contract: the signatures that a generated native source shows.

Owns:
- reading a signature from a callback: its argument count, the test of each argument
  with the parameter named in its message, and its conversion of a result;
- the law that the text of a native source shows the signatures of its records.

Does not own: the signatures that the declarations state, which are in
`AddonBindings.Proofs.Declaration.Reading`.
-/

namespace AddonBindings.Native

open Text

/-! ## Reading a signature -/

/-- The tests of a callback, each with the message that is raised if it fails. -/
def checks : List Instruction → List (Instruction × String)
  | .ifFewerArguments count :: .raise message :: rest =>
      (.ifFewerArguments count, message) :: checks rest
  | .ifNotText index :: .raise message :: rest => (.ifNotText index, message) :: checks rest
  | .ifNotNumber index :: .raise message :: rest => (.ifNotNumber index, message) :: checks rest
  | _ :: rest => checks rest
  | [] => []

/-- The parameter that a message names between apostrophes, if it is the message about
an argument that is not of the expected type. -/
def namedIn? (expected : ScriptType) (message : String) : Option String :=
  let front := "Wrong type for argument '"
  let name := String.ofList ((message.toList.drop front.length).takeWhile (· ≠ '\''))
  if message = front ++ name ++ "' (expected " ++ expected.word ++ ")" then some name else none

def parameter? (position : Nat) : Instruction × String → Option ScriptParameter
  | (.ifNotText index, message) =>
      if index = position then (namedIn? .string message).map (⟨·, .string⟩) else none
  | (.ifNotNumber index, message) =>
      if index = position then (namedIn? .number message).map (⟨·, .number⟩) else none
  | _ => none

/-- The parameters from position `first` on, from the tests in their order. -/
def parameters? : (first : Nat) → List (Instruction × String) → Option (List ScriptParameter)
  | _, [] => some []
  | first, check :: rest => do
      let parameter ← parameter? first check
      let others ← parameters? (first + 1) rest
      return parameter :: others

def Instruction.resultType? : Instruction → Option ScriptType
  | convert _ .text _ => some .string
  | convert _ .number _ => some .number
  | _ => none

/-- The signature of a callback that is registered under the name `script`.  There is
a test for each of the arguments that are counted. -/
def signatureOf? (script : String) (instructions : List Instruction) : Option ScriptSignature :=
  match checks instructions with
  | (.ifFewerArguments count, _) :: rest =>
      match parameters? 0 rest with
      | some parameters =>
          if parameters.length = count then
            some ⟨script, parameters, instructions.findSome? Instruction.resultType?⟩
          else none
      | none => none
  | _ => none

/-- The signatures that the text of a native source shows: for each registration, in
order, the signature of the callback that it names. -/
def readSource (text : String) : Option (List ScriptSignature) := do
  let found := phrases (tokens text)
  let registered ← registrations? found
  registered.mapM fun (script, callback) => do
    let instructions ← (callbacks found).lookup callback
    signatureOf? script instructions

/-! ## The signature of a callback -/

private theorem namedIn?_wrongType {parameter : ScriptParameter}
    (named : isWord parameter.name = true) :
    namedIn? parameter.type (wrongType parameter) = some parameter.name := by
  have message : wrongType parameter =
      "Wrong type for argument '" ++ parameter.name ++ "' (expected " ++ parameter.type.word ++ ")" :=
    rfl
  have inName : ∀ c ∈ parameter.name.toList, decide (c ≠ '\'') = true := by
    intro c member
    apply decide_eq_true
    rintro rfl
    have word := (isWord_iff.mp named).2 '\'' member
    revert word
    decide
  have quote : "' (expected ".toList = '\'' :: " (expected ".toList := by decide
  have name : ((wrongType parameter).toList.drop "Wrong type for argument '".length).takeWhile
      (· ≠ '\'') = parameter.name.toList := by
    rw [message]
    simp only [String.toList_append, List.append_assoc]
    rw [← String.length_toList, List.drop_left, List.takeWhile_append_of_pos inName, quote]
    simp
  simp only [namedIn?, name, String.ofList_toList]
  rw [if_pos message]

/-- The tests on the arguments from position `first` on. -/
def typeChecks : List ScriptParameter → (first : Nat) → List (Instruction × String)
  | [], _ => []
  | parameter :: rest, first =>
      ((typeTest parameter.type first).instruction, wrongType parameter) ::
        typeChecks rest (first + 1)

private theorem parameters?_typeChecks {parameters : List ScriptParameter}
    (named : ∀ parameter ∈ parameters, isWord parameter.name = true) (first : Nat) :
    parameters? first (typeChecks parameters first) = some parameters := by
  induction parameters generalizing first with
  | nil => rfl
  | cons parameter rest inductionHypothesis =>
      have others := inductionHypothesis (fun other member => named other (by simp [member])) (first + 1)
      have read : parameter? first
          ((typeTest parameter.type first).instruction, wrongType parameter) = some parameter := by
        have found := namedIn?_wrongType (named parameter (by simp))
        obtain ⟨name, type⟩ := parameter
        cases type with
        | string => simp [typeTest, Condition.instruction, parameter?, found]
        | number => simp [typeTest, Condition.instruction, parameter?, found]
      simp [typeChecks, parameters?, read, others]

private theorem checks_typeGuards (parameters : List ScriptParameter) (first : Nat)
    (rest : List Instruction) :
    checks ((typeGuards parameters first).flatMap Statement.instructions ++ rest) =
      typeChecks parameters first ++ checks rest := by
  induction parameters generalizing first with
  | nil => rfl
  | cons parameter others inductionHypothesis =>
      rw [typeGuards, List.flatMap_cons, List.append_assoc, typeChecks, List.cons_append,
        ← inductionHypothesis (first + 1)]
      cases parameter.type with
      | string => simp [Statement.instructions, typeTest, Condition.instruction, checks]
      | number => simp [Statement.instructions, typeTest, Condition.instruction, checks]

private theorem checks_conversions (parameters : List ScriptParameter) (first : Nat)
    (rest : List Instruction) :
    checks ((conversions parameters first).flatMap Statement.instructions ++ rest) = checks rest := by
  induction parameters generalizing first with
  | nil => rfl
  | cons parameter others inductionHypothesis =>
      rw [conversions, List.flatMap_cons, List.append_assoc, ← inductionHypothesis (first + 1)]
      obtain ⟨name, type⟩ := parameter
      cases type with
      | string =>
          simp [Statement.instructions, argumentConversion, checks, ScriptParameter.toParameter,
            ScriptType.boundary]
      | number =>
          simp [Statement.instructions, argumentConversion, checks, ScriptParameter.toParameter,
            ScriptType.boundary]

private theorem checks_bodyOf (functionName : String) (signature : ScriptSignature) :
    ∃ message, checks ((bodyOf functionName signature).flatMap Statement.instructions) =
      (.ifFewerArguments signature.parameters.length, message) ::
        typeChecks signature.parameters 0 := by
  have ending :
      checks ((resultStatements signature.result).flatMap Statement.instructions) = [] := by
    cases signature.result with
    | none => rfl
    | some type => rfl
  refine ⟨"Wrong number of arguments (expected " ++ toString (signature.parameters.length : Int) ++ ")",
    ?_⟩
  rw [flatMap_instructions_bodyOf, List.append_assoc]
  show checks ([.takeIsolate, .openScope, .ifFewerArguments signature.parameters.length,
    .raise _, .leave, .close] ++ _) = _
  simp only [List.cons_append, List.nil_append, checks, checks_typeGuards, checks_conversions,
    ending, List.append_nil]

private theorem findSome?_resultType?_eq_none {statements : List Statement}
    (silent : ∀ statement ∈ statements,
      statement.instructions.findSome? Instruction.resultType? = none) :
    (statements.flatMap Statement.instructions).findSome? Instruction.resultType? = none := by
  rw [List.findSome?_eq_none_iff]
  intro instruction inBody
  obtain ⟨statement, member, inStatement⟩ := List.mem_flatMap.mp inBody
  exact List.findSome?_eq_none_iff.mp (silent statement member) instruction inStatement

private theorem findSome?_resultType?_typeGuards (parameters : List ScriptParameter) (first : Nat) :
    ((typeGuards parameters first).flatMap Statement.instructions).findSome?
      Instruction.resultType? = none := by
  apply findSome?_resultType?_eq_none
  intro statement member
  obtain ⟨⟨name, type⟩, -, index, rfl⟩ := exists_of_mem_typeGuards member
  cases type <;> rfl

private theorem findSome?_resultType?_conversions (parameters : List ScriptParameter)
    (first : Nat) :
    ((conversions parameters first).flatMap Statement.instructions).findSome?
      Instruction.resultType? = none := by
  apply findSome?_resultType?_eq_none
  intro statement member
  obtain ⟨⟨name, type⟩, -, index, rfl⟩ := exists_of_mem_conversions member
  cases type <;> rfl

private theorem findSome?_resultType?_bodyOf (functionName : String) (signature : ScriptSignature) :
    ((bodyOf functionName signature).flatMap Statement.instructions).findSome?
      Instruction.resultType? = signature.result := by
  have count : (argumentCountCheck signature.parameters.length).instructions.findSome?
      Instruction.resultType? = none := rfl
  have opening : [Instruction.takeIsolate, .openScope].findSome? Instruction.resultType? = none := rfl
  have ending : ((resultStatements signature.result).flatMap Statement.instructions).findSome?
      Instruction.resultType? = signature.result := by
    cases signature.result with
    | none => rfl
    | some type => cases type <;> rfl
  rw [flatMap_instructions_bodyOf]
  simp only [List.findSome?_append, opening, count, findSome?_resultType?_typeGuards,
    findSome?_resultType?_conversions, Option.none_or]
  exact ending

/-- The callback of a signature shows that signature. -/
theorem signatureOf?_bodyOf {functionName : String} {signature : ScriptSignature}
    (names : NamesAreWords functionName signature) :
    signatureOf? signature.name ((bodyOf functionName signature).flatMap Statement.instructions) =
      some signature := by
  obtain ⟨message, tests⟩ := checks_bodyOf functionName signature
  have parameters := parameters?_typeChecks names.parameters 0
  have result := findSome?_resultType?_bodyOf functionName signature
  simp [signatureOf?, tests, parameters, result]

/-! ## The signatures of a source -/

private theorem nodup_wrapperName {functions : List ExportedFunction}
    (distinct : (functions.map ExportedFunction.name).Nodup) :
    (functions.map wrapperName).Nodup := by
  have mapped := distinct.map (f := (· ++ "_Func")) fun _ _ same => String.append_left_inj _ |>.mp same
  rwa [List.map_map] at mapped

/-- The text of a native source shows the signatures of its records, in their order. -/
theorem readSource_source {functions : List ExportedFunction} {addon text : String}
    (bindable : ∀ function ∈ functions, IsBindable function)
    (distinct : (functions.map ExportedFunction.name).Nodup) (named : isWord addon = true)
    (made : source functions addon = .ok text) :
    readSource text = functions.mapM ExportedFunction.signature? := by
  have apart := nodup_wrapperName distinct
  have read (function : ExportedFunction) (member : function ∈ functions) :
      (do
        let instructions ← (callbacks (sourcePhrases addon functions)).lookup (wrapperName function)
        signatureOf? function.scriptName instructions) = function.signature? := by
    obtain ⟨signature, stated⟩ := (bindable function member).exists_signature?
    have entries : (wrapperName function, (bodyFor function).flatMap Statement.instructions) ∈
        functions.map fun other =>
          (wrapperName other, (bodyFor other).flatMap Statement.instructions) :=
      List.mem_map_of_mem member
    have found := Traversal.lookup_eq_some_of_mem (by rwa [List.map_map]) entries
    have shown := signatureOf?_bodyOf ((bindable function member).namesAreWords stated)
    have name := (ExportedFunction.of_signature? stated).1
    rw [callbacks_sourcePhrases, found, stated]
    rw [name] at shown
    simpa [bodyFor, stated] using shown
  rw [readSource, phrases_source bindable named made, registrations?_sourcePhrases]
  show (functions.map fun function => (function.scriptName, wrapperName function)).mapM _ = _
  rw [List.mapM_map]
  exact Traversal.mapM_congr_of_mem read

end AddonBindings.Native
