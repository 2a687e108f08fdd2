import AddonBindings.Proofs.Native.Instruction

/-!
Contract: the lines of a statement as instructions.

Owns:
- the instructions that a statement stands for;
- the statements whose lines can be read back: every name in them is a word, every
  position is a natural number and every message can stand between quotation marks;
- the law that the lines of such statements are read as their instructions.

Does not own: the instructions themselves, which are in
`AddonBindings.Proofs.Native.Instruction`.
-/

namespace AddonBindings.Native

open Text

def Condition.instruction : Condition → Instruction
  | fewerArguments count => .ifFewerArguments count.toNat
  | notText index => .ifNotText index.toNat
  | notNumber index => .ifNotNumber index.toNat

/-- The number in a condition is a natural number. -/
def Condition.isNatural : Condition → Bool
  | fewerArguments count => 0 ≤ count
  | notText index => 0 ≤ index
  | notNumber index => 0 ≤ index

namespace Statement

def instructions : Statement → List Instruction
  | blank | remark _ => []
  | declareIsolate => [.takeIsolate]
  | declareScope => [.openScope]
  | guardThat condition message => [condition.instruction, .raise message, .leave, .close]
  | takeText variableName index =>
      [ .holdText (textHolder variableName) index.toNat,
        .pointTo variableName (textHolder variableName) ]
  | takeNumber variableName index => [.takeNumber variableName index.toNat]
  | call function arguments keeps =>
      [.call (if keeps then some "result" else none) function arguments]
  | giveBack value => [.convert "nodeResult" value "result", .giveBack "nodeResult"]

/-- The statement can be read back from its lines. -/
def isReadable : Statement → Bool
  | blank | declareIsolate | declareScope | giveBack _ => true
  | remark text => text.toList.all (· ≠ '\n')
  | guardThat condition message => condition.isNatural && message.toList.all Reading.isQuotable
  | takeText variableName index | takeNumber variableName index =>
      isWord variableName && 0 ≤ index
  | call function arguments _ => isWord function && arguments.all isWord

/-! ## The lines of one statement -/

theorem readsLines_literal {line : String}
    (closed : (Reading.between.scan line.toList).2 = .between) :
    ReadsLines [line] (tokens line) :=
  .singleton (.literal closed)

private theorem isWord_textHolder {variableName : String} (named : isWord variableName = true) :
    isWord (textHolder variableName) = true :=
  isWord_append named (List.all_eq_true.mp (by decide))

private theorem readsLines_test {front back : String} {frontTokens backTokens : List Token}
    (number : Nat)
    (opening : Reads ("if (" ++ front).toList frontTokens)
    (test : Reads (back ++ ") \x7b").toList backTokens)
    (marked : startsWithMark (back ++ ") \x7b").toList = true) :
    ReadsLines ["if (" ++ (front ++ Nat.repr number ++ back) ++ ") \x7b"]
      (frontTokens ++ .word (Nat.repr number) :: backTokens) := by
  have whole := opening.append (test.word (isWord_repr number) marked)
  apply ReadsLines.singleton
  simpa [String.toList_append] using whole

private theorem readsLines_opening {condition : Condition} (natural : condition.isNatural = true) :
    ReadsLines ["if (" ++ condition.text ++ ") \x7b"] condition.instruction.phrase := by
  cases condition with
  | fewerArguments count =>
      obtain ⟨count, rfl⟩ := Int.eq_ofNat_of_zero_le (of_decide_eq_true natural)
      show ReadsLines ["if (" ++ ("args.Length() < " ++ Nat.repr count) ++ ") \x7b"] _
      rw [← String.append_empty (s := "args.Length() < " ++ Nat.repr count)]
      exact readsLines_test count (by decide) (by decide) (by decide)
  | notText index =>
      obtain ⟨index, rfl⟩ := Int.eq_ofNat_of_zero_le (of_decide_eq_true natural)
      exact readsLines_test index (by decide) (by decide) (by decide)
  | notNumber index =>
      obtain ⟨index, rfl⟩ := Int.eq_ofNat_of_zero_le (of_decide_eq_true natural)
      exact readsLines_test index (by decide) (by decide) (by decide)

private theorem readsLines_raiseTypeError {message : String}
    (quotable : message.toList.all Reading.isQuotable = true) :
    ReadsLines (raiseTypeError message)
      (Instruction.phrase (.raise message) ++ Instruction.phrase .leave) := by
  have raised : ReadsLines ["isolate->ThrowException(Exception::TypeError("]
      (.word "isolate" :: .mark '-' :: tokens ">ThrowException(Exception::TypeError(") :=
    .singleton (by decide)
  have opening : Reads "    String::NewFromUtf8(isolate, ".toList
      (tokens "String::NewFromUtf8(isolate,") := by decide
  have closing : Reads ").ToLocalChecked()));".toList (tokens ").ToLocalChecked()));") :=
    .literal (by decide)
  have quoted := Reads.quoted (List.all_eq_true.mp quotable)
  have text : ReadsLines ["    String::NewFromUtf8(isolate, \"" ++ message ++ "\").ToLocalChecked()));"]
      (tokens "String::NewFromUtf8(isolate," ++
        .quoted message :: tokens ").ToLocalChecked()));") := by
    have front : "    String::NewFromUtf8(isolate, \"".toList =
        "    String::NewFromUtf8(isolate, ".toList ++ ['"'] := by decide
    have back : "\").ToLocalChecked()));".toList = '"' :: ").ToLocalChecked()));".toList := by
      decide
    apply ReadsLines.singleton
    rw [String.toList_append, String.toList_append, front, back]
    have whole := opening.append (quoted.append closing)
    simpa using whole
  have left : ReadsLines ["return;"] (tokens "return;") := readsLines_literal (by decide)
  have all := raised.append (text.append left)
  simpa [raiseTypeError, Instruction.phrase] using all

private theorem readsLines_guardThat {condition : Condition} {message : String}
    (natural : condition.isNatural = true)
    (quotable : message.toList.all Reading.isQuotable = true) :
    ReadsLines (guardThat condition message).lines
      ((guardThat condition message).instructions.flatMap Instruction.phrase) := by
  have opening := readsLines_opening natural
  have inside := (readsLines_raiseTypeError quotable).map_indentation
  have closing : ReadsLines ["\x7d"] (tokens "\x7d") := readsLines_literal (by decide)
  have all := opening.append (inside.append closing)
  simpa [lines, instructions, Instruction.phrase] using all

private theorem readsLines_takeText {variableName : String} (named : isWord variableName = true)
    (index : Nat) :
    ReadsLines (takeText variableName index).lines
      ((takeText variableName index).instructions.flatMap Instruction.phrase) := by
  have holder := isWord_textHolder named
  have held : ReadsLines
      ["String::Utf8Value " ++ textHolder variableName ++ "(isolate, args[" ++ Nat.repr index ++ "]);"]
      (Instruction.phrase (.holdText (textHolder variableName) index)) := by
    have front : Reads "String::Utf8Value ".toList (tokens "String::Utf8Value") := by decide
    have argument : Reads "(isolate, args[".toList (tokens "(isolate, args[") := by decide
    have back : Reads "]);".toList (tokens "]);") := by decide
    have whole := front.append ((argument.append (back.word (isWord_repr index) (by decide))).word
      holder (startsWithMark_append (by decide) _))
    apply ReadsLines.singleton
    simpa [String.toList_append, Instruction.phrase] using whole
  have pointed : ReadsLines ["char *" ++ variableName ++ " = *" ++ textHolder variableName ++ ";"]
      (Instruction.phrase (.pointTo variableName (textHolder variableName))) := by
    have front : Reads "char *".toList (tokens "char *") := by decide
    have star : Reads " = *".toList (tokens "= *") := by decide
    have back : Reads ";".toList (tokens ";") := by decide
    have whole := front.append ((star.append (back.word holder (by decide))).word
      named (startsWithMark_append (by decide) _))
    apply ReadsLines.singleton
    simpa [String.toList_append, Instruction.phrase] using whole
  have both := held.append pointed
  rw [← List.append_nil (Instruction.phrase (.pointTo _ _))] at both
  exact both

private theorem readsLines_takeNumber {variableName : String} (named : isWord variableName = true)
    (index : Nat) :
    ReadsLines (takeNumber variableName index).lines
      ((takeNumber variableName index).instructions.flatMap Instruction.phrase) := by
  have front : Reads "auto ".toList (tokens "auto") := by decide
  have argument : Reads " = args[".toList (tokens "= args[") := by decide
  have back : Reads "].As<Number>()->Value();".toList (tokens "].As<Number>()->Value();") :=
    .literal (by decide)
  have whole := front.append ((argument.append (back.word (isWord_repr index) (by decide))).word
    named (startsWithMark_append (by decide) _))
  have line : ReadsLines
      ["auto " ++ variableName ++ " = args[" ++ Nat.repr index ++ "].As<Number>()->Value();"]
      (Instruction.phrase (.takeNumber variableName index)) := by
    apply ReadsLines.singleton
    simpa [String.toList_append, Instruction.phrase] using whole
  rw [← List.append_nil (Instruction.phrase _)] at line
  exact line

/-- The arguments of a call, up to the end of the call. -/
theorem reads_arguments {arguments : List String} (named : arguments.all isWord = true) :
    Reads ((String.intercalate ", " arguments).toList ++ ");".toList)
      ([.mark ','].intercalate (arguments.map fun argument => [.word argument]) ++
        [.mark ')', .mark ';']) := by
  have each : List.Forall₂ (fun argument => ReadsToMark argument.toList) arguments
      (arguments.map fun argument => [.word argument]) := by
    rw [List.forall₂_map_right_iff, List.forall₂_same]
    exact fun argument member => .word (List.all_eq_true.mp named argument member)
  have closing : Reads ");".toList [.mark ')', .mark ';'] := by decide
  exact ReadsToMark.intercalate each _ _ (by decide) closing

private theorem readsLines_call {function : String} {arguments : List String}
    (functionNamed : isWord function = true) (named : arguments.all isWord = true) (keeps : Bool) :
    ReadsLines (call function arguments keeps).lines
      ((call function arguments keeps).instructions.flatMap Instruction.phrase) := by
  have opened : Reads "(".toList [.mark '('] := by decide
  have invocation : Reads (function ++ "(" ++ String.intercalate ", " arguments ++ ");").toList
      (Instruction.callTokens function arguments) := by
    have whole := (opened.append (reads_arguments named)).word functionNamed
      (startsWithMark_append (by decide) _)
    simpa [String.toList_append, Instruction.callTokens] using whole
  cases keeps with
  | false =>
      have line := ReadsLines.singleton invocation
      rw [← List.append_nil (Instruction.callTokens function arguments)] at line
      exact line
  | true =>
      have front : Reads "auto result = ".toList (tokens "auto" ++ .word "result" :: tokens "=") := by
        decide
      have line : ReadsLines [callText function arguments true]
          (Instruction.phrase (.call (some "result") function arguments)) := by
        apply ReadsLines.singleton
        show Reads ("auto result = " ++ _).toList _
        rw [String.toList_append]
        simpa [Instruction.phrase] using front.append invocation
      rw [← List.append_nil (Instruction.phrase _)] at line
      exact line

private theorem readsLines_giveBack (value : ReturnValue) :
    ReadsLines (giveBack value).lines
      ((giveBack value).instructions.flatMap Instruction.phrase) := by
  have given : ReadsLines ["args.GetReturnValue().Set(nodeResult);"]
      (Instruction.phrase (.giveBack "nodeResult")) := .singleton (by decide)
  have converted : ReadsLines ["auto nodeResult = " ++ value.conversion ++ ";"]
      (Instruction.phrase (.convert "nodeResult" value "result")) := by
    apply ReadsLines.singleton
    cases value with
    | text => decide
    | number => decide
  have both := converted.append given
  rw [← List.append_nil (Instruction.phrase (.giveBack _))] at both
  exact both

/-! ## All statements -/

/-- The lines of a statement are read as its instructions. -/
theorem readsLines_lines {statement : Statement} (readable : statement.isReadable = true) :
    ReadsLines statement.lines (statement.instructions.flatMap Instruction.phrase) := by
  cases statement with
  | blank => exact .singleton (by decide)
  | remark text =>
      refine .remark fun c member => ?_
      exact of_decide_eq_true (List.all_eq_true.mp readable c member)
  | declareIsolate => exact readsLines_literal (by decide)
  | declareScope => exact readsLines_literal (by decide)
  | guardThat condition message =>
      obtain ⟨natural, quotable⟩ := Bool.and_eq_true_iff.mp readable
      exact readsLines_guardThat natural quotable
  | takeText variableName index =>
      obtain ⟨named, natural⟩ := Bool.and_eq_true_iff.mp readable
      obtain ⟨index, rfl⟩ := Int.eq_ofNat_of_zero_le (of_decide_eq_true natural)
      exact readsLines_takeText named index
  | takeNumber variableName index =>
      obtain ⟨named, natural⟩ := Bool.and_eq_true_iff.mp readable
      obtain ⟨index, rfl⟩ := Int.eq_ofNat_of_zero_le (of_decide_eq_true natural)
      exact readsLines_takeNumber named index
  | call function arguments keeps =>
      obtain ⟨functionNamed, named⟩ := Bool.and_eq_true_iff.mp readable
      exact readsLines_call functionNamed named keeps
  | giveBack value => exact readsLines_giveBack value

theorem readsLines_flatMap_lines {body : List Statement}
    (readable : ∀ statement ∈ body, statement.isReadable = true) :
    ReadsLines (body.flatMap lines) ((body.flatMap instructions).flatMap Instruction.phrase) := by
  induction body with
  | nil => exact .nil
  | cons statement rest inductionHypothesis =>
      have others := inductionHypothesis (fun other member => readable other (by simp [member]))
      rw [List.flatMap_cons, List.flatMap_cons, List.flatMap_append]
      exact (readsLines_lines (readable statement (by simp))).append others

end Statement

end AddonBindings.Native
