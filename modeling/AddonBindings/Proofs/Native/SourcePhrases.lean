import AddonBindings.Native.Source
import AddonBindings.Proofs.Native.Callback

/-!
Contract: the phrases of a generated native source.

Owns:
- the phrases of a callback, of the function that registers callbacks and of the
  whole source;
- the law that the text of a source is cut into these phrases.

Does not own: what is read from the phrases, which is in
`AddonBindings.Proofs.Native.SourceReading`.
-/

namespace AddonBindings.Native

open Text

/-! ## The phrases of a callback -/

def callbackOpening (name : String) : List Token :=
  tokens "void" ++ .word name :: tokens "(const FunctionCallbackInfo<Value> &args) \x7b"

def callbackPhrases (name : String) (body : List Statement) : List (List Token) :=
  callbackOpening name ::
    ((body.flatMap Statement.instructions).map Instruction.phrase ++ [Instruction.close.phrase])

private theorem isWord_wrapperName {function : ExportedFunction}
    (named : isWord function.name = true) :
    isWord (wrapperName function) = true :=
  isWord_append named (List.all_eq_true.mp (by decide))

theorem readsLines_wrapperLines {function : ExportedFunction} {body : List Statement}
    (named : isWord function.name = true)
    (readable : ∀ statement ∈ body, statement.isReadable = true) :
    ReadsLines (wrapperLines function body) (callbackPhrases (wrapperName function) body).flatten := by
  have opening : ReadsLines
      ["void " ++ wrapperName function ++ "(const FunctionCallbackInfo<Value> &args) \x7b"]
      (callbackOpening (wrapperName function)) := by
    have front : Reads "void ".toList (tokens "void") := by decide
    have back : Reads "(const FunctionCallbackInfo<Value> &args) \x7b".toList
        (tokens "(const FunctionCallbackInfo<Value> &args) \x7b") := .literal (by decide)
    have whole := front.append (back.word (isWord_wrapperName named) (by decide))
    apply ReadsLines.singleton
    simpa [String.toList_append, callbackOpening] using whole
  have inside := (Statement.readsLines_flatMap_lines readable).indent
  have closing : ReadsLines ["\x7d"] Instruction.close.phrase :=
    Statement.readsLines_literal (by decide)
  have all := opening.append (inside.append closing)
  have same : (callbackPhrases (wrapperName function) body).flatten =
      callbackOpening (wrapperName function) ++
        ((body.flatMap Statement.instructions).flatMap Instruction.phrase ++
          Instruction.close.phrase) := by
    rw [callbackPhrases, List.flatten_cons, List.flatten_append, List.flatten_singleton,
      List.flatMap_def (f := Instruction.phrase)]
  rw [same]
  exact all

theorem isPhrase_callbackPhrases (name : String) (body : List Statement) :
    ∀ phrase ∈ callbackPhrases name body, isPhrase phrase = true := by
  intro phrase member
  rcases List.mem_cons.mp member with rfl | inBody
  · rfl
  · rcases List.mem_append.mp inBody with inside | closing
    · obtain ⟨instruction, -, rfl⟩ := List.mem_map.mp inside
      exact instruction.isPhrase_phrase
    · rw [List.mem_singleton.mp closing]
      exact Instruction.isPhrase_phrase .close

/-! ## The phrases of a source -/

/-- The body of the callback of a function; empty if it has no signature. -/
def bodyFor (function : ExportedFunction) : List Statement :=
  (function.signature?.map (bodyOf function.name)).getD []

/-- The phrase up to the brace that opens the namespace. -/
def headerPhrase (addon : String) : List Token :=
  tokens "#include" ++ .quoted ("../" ++ addon ++ ".h") ::
    (tokens "#include <node.h> namespace" ++ .word addon :: tokens "\x7b")

/-- The phrase that opens the function that registers callbacks. -/
def initPhrase : List Token := tokens "void Init(Local<Object> exports) \x7b"

def registrationPhrase (function : ExportedFunction) : List Token :=
  tokens "NODE_SET_METHOD(exports," ++
    .quoted function.scriptName :: .mark ',' :: .word (wrapperName function) :: tokens ");"

def wrapperPhrases (functions : List ExportedFunction) : List (List Token) :=
  functions.flatMap fun function => callbackPhrases (wrapperName function) (bodyFor function)

def initPhrases (functions : List ExportedFunction) : List (List Token) :=
  initPhrase :: (functions.map registrationPhrase ++ [Instruction.close.phrase])

def sourcePhrases (addon : String) (functions : List ExportedFunction) : List (List Token) :=
  [headerPhrase addon, tokens "using namespace v8;", tokens "using namespace node;"] ++
    (wrapperPhrases functions ++
      (initPhrases functions ++ [tokens "NODE_MODULE(NODE_GYP_MODULE_NAME, Init) \x7d"]))

theorem wrapper_eq_of_isBindable {function : ExportedFunction} (bindable : IsBindable function) :
    wrapper function = .ok (wrapperLines function (bodyFor function)) := by
  obtain ⟨signature, stated⟩ := bindable.exists_signature?
  rw [wrapper, wrapperBody_eq_bodyOf stated, bodyFor, stated]
  rfl

theorem isReadable_bodyFor {function : ExportedFunction} (bindable : IsBindable function) :
    ∀ statement ∈ bodyFor function, statement.isReadable = true := by
  obtain ⟨signature, stated⟩ := bindable.exists_signature?
  rw [bodyFor, stated]
  exact isReadable_bodyOf (bindable.namesAreWords stated)

private theorem readsLines_header {addon : String} (named : isWord addon = true) :
    ReadsLines
      (Product.notice :: headerIncludes addon ++
        ["", "namespace " ++ addon ++ " \x7b", "", "using namespace v8;", "using namespace node;", ""])
      [headerPhrase addon, tokens "using namespace v8;", tokens "using namespace node;"].flatten := by
  have notice : ReadsLines [Product.notice] [] := .line (by decide)
  have own : ReadsLines ["#include \"../" ++ addon ++ ".h\""]
      (tokens "#include" ++ [.quoted ("../" ++ addon ++ ".h")]) := by
    have front : "#include \"../".toList = "#include ".toList ++ '"' :: "../".toList := by decide
    have back : ".h\"".toList = ".h".toList ++ ['"'] := by decide
    have directive : Reads "#include ".toList (tokens "#include") := by decide
    have quotable : ("../" ++ addon ++ ".h").toList.all Reading.isQuotable = true := by
      have dots : "../".toList.all Reading.isQuotable = true := by decide
      have ending : ".h".toList.all Reading.isQuotable = true := by decide
      simp only [all_isQuotable_append, dots, all_isQuotable_of_isWord named, ending, Bool.and_self]
    have whole := directive.append (.quoted (List.all_eq_true.mp quotable))
    apply ReadsLines.singleton
    simp only [String.toList_append, front, back] at whole ⊢
    simpa using whole
  have other : ReadsLines ["#include <node.h>"] (tokens "#include <node.h>") :=
    Statement.readsLines_literal (by decide)
  have blank : ReadsLines [""] [] := .singleton (by decide)
  have opening : ReadsLines ["namespace " ++ addon ++ " \x7b"]
      (tokens "namespace" ++ .word addon :: tokens "\x7b") := by
    have front : Reads "namespace ".toList (tokens "namespace") := by decide
    have back : Reads " \x7b".toList (tokens "\x7b") := by decide
    have whole := front.append (back.word named (by decide))
    apply ReadsLines.singleton
    simpa [String.toList_append] using whole
  have first : ReadsLines ["using namespace v8;"] (tokens "using namespace v8;") :=
    Statement.readsLines_literal (by decide)
  have second : ReadsLines ["using namespace node;"] (tokens "using namespace node;") :=
    Statement.readsLines_literal (by decide)
  have all := notice.append (own.append (other.append (blank.append (opening.append
    (blank.append (first.append (second.append blank)))))))
  have joined : tokens "#include <node.h> namespace" =
      tokens "#include <node.h>" ++ tokens "namespace" := by decide
  simpa [headerIncludes, headerPhrase, joined] using all

private theorem readsLines_wrappers {functions : List ExportedFunction}
    (bindable : ∀ function ∈ functions, IsBindable function) :
    ReadsLines
      ((functions.map fun function => wrapperLines function (bodyFor function)).flatMap (· ++ [""]))
      (wrapperPhrases functions).flatten := by
  have blank : ReadsLines [""] [] := .singleton (by decide)
  induction functions with
  | nil => exact .nil
  | cons function rest inductionHypothesis =>
      have others := inductionHypothesis (fun other member => bindable other (by simp [member]))
      have this := bindable function (by simp)
      have first := readsLines_wrapperLines this.named (isReadable_bodyFor this)
      have all := (first.append blank).append others
      simpa [wrapperPhrases] using all

private theorem readsLines_registration {function : ExportedFunction}
    (named : isWord function.name = true) :
    ReadsLines [registration function] (registrationPhrase function) := by
  have front : "NODE_SET_METHOD(exports, \"".toList =
      "NODE_SET_METHOD(exports, ".toList ++ ['"'] := by decide
  have middle : "\", ".toList = '"' :: ", ".toList := by decide
  have opening : Reads "NODE_SET_METHOD(exports, ".toList (tokens "NODE_SET_METHOD(exports,") := by
    decide
  have comma : Reads ", ".toList [.mark ','] := by decide
  have closing : Reads ");".toList (tokens ");") := by decide
  have isScript : isWord function.scriptName = true := isWord_lowerFirst named
  have script := Reads.quoted (List.all_eq_true.mp (all_isQuotable_of_isWord isScript))
  have whole := opening.append (script.append (comma.append
    (closing.word (isWord_wrapperName named) (by decide))))
  apply ReadsLines.singleton
  show Reads ("NODE_SET_METHOD(exports, \"" ++ function.scriptName ++ "\", " ++
    wrapperName function ++ ");").toList (registrationPhrase function)
  simp only [String.toList_append, front, middle]
  simpa [registrationPhrase] using whole

theorem readsLines_initFunction {functions : List ExportedFunction}
    (named : ∀ function ∈ functions, isWord function.name = true) :
    ReadsLines (initFunction functions) (initPhrases functions).flatten := by
  have opening : ReadsLines ["void Init(Local<Object> exports) \x7b"] initPhrase :=
    Statement.readsLines_literal (by decide)
  have closing : ReadsLines ["\x7d"] Instruction.close.phrase :=
    Statement.readsLines_literal (by decide)
  have inside : ReadsLines (functions.map fun function => indentation ++ registration function)
      (functions.map registrationPhrase).flatten := by
    induction functions with
    | nil => exact .nil
    | cons function rest inductionHypothesis =>
        have others := inductionHypothesis (fun other member => named other (by simp [member]))
        have first := (readsLines_registration (named function (by simp))).map_indentation
        exact first.append others
  have all := opening.append (inside.append closing)
  simpa [initFunction, initPhrases] using all

private theorem readsLines_ending {addon : String} (named : isWord addon = true) :
    ReadsLines ["", moduleDirective, "", "\x7d  // namespace " ++ addon]
      (tokens "NODE_MODULE(NODE_GYP_MODULE_NAME, Init) \x7d") := by
  have blank : ReadsLines [""] [] := .singleton (by decide)
  have directive : ReadsLines [moduleDirective] (tokens moduleDirective) :=
    Statement.readsLines_literal (by decide)
  have inLine : ∀ c ∈ addon.toList, c ≠ '\n' := by
    rintro c member rfl
    have word := (isWord_iff.mp named).2 '\n' member
    revert word
    decide
  have remark : ReadsLines ["// " ++ ("namespace " ++ addon)] [] := by
    refine .remark fun c member => ?_
    have frontAll : "namespace ".toList.all (fun c => decide (c ≠ '\n')) = true := by decide
    have front : ∀ c ∈ "namespace ".toList, c ≠ '\n' :=
      fun c member => of_decide_eq_true (List.all_eq_true.mp frontAll c member)
    rw [String.toList_append] at member
    rcases List.mem_append.mp member with inFront | inName
    · exact front c inFront
    · exact inLine c inName
  have closing : ReadsLines ["\x7d  // namespace " ++ addon] (tokens "\x7d") := by
    have brace : Reads "\x7d  ".toList (tokens "\x7d") := by decide
    have split : "\x7d  // namespace ".toList = "\x7d  ".toList ++ "// namespace ".toList := by decide
    have whole := brace.append remark.reads
    apply ReadsLines.line
    rw [String.toList_append, split]
    simpa [linesText, String.toList_append] using whole
  have joined : tokens "NODE_MODULE(NODE_GYP_MODULE_NAME, Init) \x7d" =
      tokens moduleDirective ++ tokens "\x7d" := by decide
  rw [joined]
  exact blank.append (directive.append (blank.append closing))

theorem isPhrase_initPhrases (functions : List ExportedFunction) :
    ∀ phrase ∈ initPhrases functions, isPhrase phrase = true := by
  intro phrase member
  rcases List.mem_cons.mp member with rfl | inRest
  · decide
  · rcases List.mem_append.mp inRest with inRegistrations | closing
    · obtain ⟨function, -, rfl⟩ := List.mem_map.mp inRegistrations
      rfl
    · rw [List.mem_singleton.mp closing]
      exact Instruction.isPhrase_phrase .close

theorem isPhrase_sourcePhrases (addon : String) (functions : List ExportedFunction) :
    ∀ phrase ∈ sourcePhrases addon functions, isPhrase phrase = true := by
  intro phrase member
  rcases List.mem_append.mp member with inHeader | inRest
  · simp only [List.mem_cons, List.not_mem_nil, or_false] at inHeader
    rcases inHeader with rfl | rfl | rfl
    · rfl
    · decide
    · decide
  · rcases List.mem_append.mp inRest with inWrappers | inRest
    · obtain ⟨function, -, inWrapper⟩ := List.mem_flatMap.mp inWrappers
      exact isPhrase_callbackPhrases _ _ phrase inWrapper
    · rcases List.mem_append.mp inRest with inInit | inEnding
      · exact isPhrase_initPhrases functions phrase inInit
      · rw [List.mem_singleton.mp inEnding]
        decide

/-- The native source is the frame with one callback for each function. -/
theorem source_eq {functions : List ExportedFunction}
    (bindable : ∀ function ∈ functions, IsBindable function) (addon : String) :
    source functions addon = .ok (sourceText addon functions
      (functions.map fun function => wrapperLines function (bodyFor function))) := by
  have wrappers : (functions.mapM fun function => (wrapper function).mapError (SourceFault.mk function)) =
      .ok (functions.map fun function => wrapperLines function (bodyFor function)) := by
    apply Traversal.mapM_eq_ok_map
    intro function member
    rw [wrapper_eq_of_isBindable (bindable function member)]
    rfl
  rw [source, wrappers]
  rfl

/-- The text of a source is cut into the phrases of its callbacks and their
registrations. -/
theorem phrases_source {functions : List ExportedFunction} {addon text : String}
    (bindable : ∀ function ∈ functions, IsBindable function) (named : isWord addon = true)
    (made : source functions addon = .ok text) :
    phrases (tokens text) = sourcePhrases addon functions := by
  rw [source_eq bindable] at made
  have same := Except.ok.inj made
  have reads := (((readsLines_header named).append (readsLines_wrappers bindable)).append
    (readsLines_initFunction fun function member => (bindable function member).named)).append
      (readsLines_ending named)
  have joined : tokens text = (sourcePhrases addon functions).flatten := by
    rw [← same, sourceText, tokens_fileText (by simp) reads.reads]
    simp only [sourcePhrases, List.flatten_append, List.flatten_singleton, List.append_assoc]
  have cut := phrases_flatten_append (isPhrase_sourcePhrases addon functions) []
  rw [List.append_nil, phrases, List.append_nil] at cut
  rw [joined, cut]

end AddonBindings.Native
