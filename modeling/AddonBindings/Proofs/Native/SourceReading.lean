import AddonBindings.Proofs.Native.SourcePhrases

/-!
Contract: a generated native source, read from its text.

Owns:
- reading the callbacks of a text: their names and their instructions;
- reading which callback is registered under which name;
- the law that the phrases of a native source are read as the callbacks of its
  functions and their registrations.

Does not own: the signature that a callback shows, which is in
`AddonBindings.Proofs.Native.SignatureReading`.
-/

namespace AddonBindings.Native

open Text

/-! ## Reading callbacks -/

/-- The name of a callback, from the phrase that opens its definition. -/
def callbackName? : List Token → Option String
  | .word first :: .word name :: rest =>
      if first = "void" ∧ rest = tokens "(const FunctionCallbackInfo<Value> &args) \x7b" then
        some name
      else none
  | _ => none

def Instruction.depthAfter (depth : Nat) : Instruction → Nat
  | ifFewerArguments _ | ifNotText _ | ifNotNumber _ => depth + 1
  | close => depth - 1
  | _ => depth

/-- The instructions up to the brace that closes the body, inside `depth` open
blocks. -/
def body? : (depth : Nat) → List (List Token) → Option (List Instruction)
  | _, [] => none
  | depth, phrase :: rest =>
      match Instruction.ofPhrase? phrase with
      | none => none
      | some instruction =>
          if instruction = .close ∧ depth = 0 then some []
          else (body? (instruction.depthAfter depth) rest).map (instruction :: ·)

def callbacks : List (List Token) → List (String × List Instruction)
  | [] => []
  | phrase :: rest =>
      match callbackName? phrase, body? 0 rest with
      | some name, some instructions => (name, instructions) :: callbacks rest
      | _, _ => callbacks rest

def registration? (phrase : List Token) : Option (String × String) :=
  match after? (tokens "NODE_SET_METHOD(exports,") phrase with
  | some (.quoted script :: .mark ',' :: .word callback :: rest) =>
      if rest = tokens ");" then some (script, callback) else none
  | _ => none

def registrations? : List (List Token) → Option (List (String × String))
  | [] => none
  | phrase :: rest =>
      if phrase = initPhrase then
        (rest.takeWhile (· ≠ tokens "\x7d")).mapM registration?
      else registrations? rest

/-! ## Callbacks are read back -/

private theorem body?_phrase {instruction : Instruction} {depth : Nat}
    (inside : instruction = .close → depth ≠ 0) (rest : List (List Token)) :
    body? depth (instruction.phrase :: rest) =
      (body? (instruction.depthAfter depth) rest).map (instruction :: ·) := by
  rw [body?, instruction.ofPhrase?_phrase]
  exact if_neg (fun last => inside last.1 last.2)

private theorem body?_last (rest : List (List Token)) :
    body? 0 (Instruction.close.phrase :: rest) = some [] := by
  rw [body?, Instruction.ofPhrase?_phrase]
  rfl

/-- The instructions of a statement close every block that they open. -/
theorem body?_instructions (statement : Statement) (depth : Nat) (rest : List (List Token)) :
    body? depth (statement.instructions.map Instruction.phrase ++ rest) =
      (body? depth rest).map (statement.instructions ++ ·) := by
  have unchanged : (body? depth rest).map ([] ++ ·) = body? depth rest := by simp
  cases statement with
  | blank => exact unchanged.symm
  | remark text => exact unchanged.symm
  | guardThat condition message =>
      have opens : condition.instruction.depthAfter depth = depth + 1 := by cases condition <;> rfl
      have stays : condition.instruction ≠ .close := by cases condition <;> simp [Condition.instruction]
      have opened (others : List (List Token)) :
          body? depth (condition.instruction.phrase :: others) =
            (body? (condition.instruction.depthAfter depth) others).map
              (condition.instruction :: ·) :=
        body?_phrase (fun same => absurd same stays) others
      simp only [Statement.instructions, List.map_cons, List.map_nil, List.cons_append,
        List.nil_append]
      rw [opened, opens]
      simp [body?_phrase, Instruction.depthAfter, Function.comp_def]
  | _ => simp [Statement.instructions, body?_phrase, Instruction.depthAfter, Function.comp_def]

private theorem body?_flatMap_instructions (body : List Statement) (rest : List (List Token)) :
    body? 0 ((body.flatMap Statement.instructions).map Instruction.phrase ++
        Instruction.close.phrase :: rest) =
      some (body.flatMap Statement.instructions) := by
  induction body with
  | nil => exact body?_last rest
  | cons statement others inductionHypothesis =>
      rw [List.flatMap_cons, List.map_append, List.append_assoc, body?_instructions,
        inductionHypothesis, Option.map_some]

private theorem callbackName?_phrase (instruction : Instruction) :
    callbackName? instruction.phrase = none := by
  cases instruction with
  | call keptAs function arguments => cases keptAs <;> rfl
  | convert variableName value kept => cases value <;> rfl
  | _ => rfl

private theorem callbacks_cons_of_none {phrase : List Token} (other : callbackName? phrase = none)
    (rest : List (List Token)) : callbacks (phrase :: rest) = callbacks rest := by
  rw [callbacks, other]

/-- The callback is found, and nothing inside it is taken for another callback. -/
theorem callbacks_callbackPhrases (name : String) (body : List Statement)
    (rest : List (List Token)) :
    callbacks (callbackPhrases name body ++ rest) =
      (name, body.flatMap Statement.instructions) :: callbacks rest := by
  have skipped (instructions : List Instruction) :
      callbacks (instructions.map Instruction.phrase ++ rest) = callbacks rest := by
    induction instructions with
    | nil => rfl
    | cons instruction others inductionHypothesis =>
        rw [List.map_cons, List.cons_append,
          callbacks_cons_of_none (callbackName?_phrase instruction), inductionHypothesis]
  have opened : callbackName? (callbackOpening name) = some name := rfl
  have inside := body?_flatMap_instructions body rest
  have after := skipped (body.flatMap Statement.instructions ++ [.close])
  rw [List.map_append, List.map_singleton, List.append_assoc, List.singleton_append] at after
  rw [callbackPhrases, List.cons_append, List.append_assoc, List.singleton_append, callbacks,
    opened, inside]
  exact congrArg _ after

/-- The text of a callback is read as this callback alone. -/
theorem callbacks_wrapperLines {function : ExportedFunction} {body : List Statement}
    (named : isWord function.name = true)
    (readable : ∀ statement ∈ body, statement.isReadable = true) :
    callbacks (phrases (tokens (fileText (wrapperLines function body)))) =
      [(wrapperName function, body.flatMap Statement.instructions)] := by
  have reads := (readsLines_wrapperLines named readable).reads
  have cut := phrases_flatten_append (isPhrase_callbackPhrases (wrapperName function) body) []
  have found := callbacks_callbackPhrases (wrapperName function) body []
  rw [List.append_nil] at cut found
  rw [tokens_fileText (by simp [wrapperLines]) reads, cut, phrases, List.append_nil, found, callbacks]

/-! ## Reading the source -/

private theorem callbacks_wrapperPhrases (functions : List ExportedFunction)
    (rest : List (List Token)) :
    callbacks (wrapperPhrases functions ++ rest) =
      (functions.map fun function =>
        (wrapperName function, (bodyFor function).flatMap Statement.instructions)) ++
        callbacks rest := by
  induction functions with
  | nil => rfl
  | cons function others inductionHypothesis =>
      rw [wrapperPhrases, List.flatMap_cons, List.append_assoc, callbacks_callbackPhrases,
        List.map_cons, List.cons_append]
      exact congrArg _ inductionHypothesis

private theorem callbacks_append_of_forall_none {front : List (List Token)}
    (others : ∀ phrase ∈ front, callbackName? phrase = none) (rest : List (List Token)) :
    callbacks (front ++ rest) = callbacks rest := by
  induction front with
  | nil => rfl
  | cons phrase front inductionHypothesis =>
      have tail := inductionHypothesis (fun other member => others other (by simp [member]))
      rw [List.cons_append, callbacks_cons_of_none (others phrase (by simp)), tail]

private theorem callbackName?_of_mem_initPhrases {functions : List ExportedFunction}
    {phrase : List Token}
    (member : phrase ∈ initPhrases functions) : callbackName? phrase = none := by
  rcases List.mem_cons.mp member with rfl | inRest
  · decide
  · rcases List.mem_append.mp inRest with registered | closing
    · obtain ⟨function, -, rfl⟩ := List.mem_map.mp registered
      rfl
    · rw [List.mem_singleton.mp closing]
      exact callbackName?_phrase .close

/-- The callbacks of the functions are found, in their order, and nothing else. -/
theorem callbacks_sourcePhrases (addon : String) (functions : List ExportedFunction) :
    callbacks (sourcePhrases addon functions) =
      functions.map fun function =>
        (wrapperName function, (bodyFor function).flatMap Statement.instructions) := by
  have header : ∀ phrase ∈
      [headerPhrase addon, tokens "using namespace v8;", tokens "using namespace node;"],
      callbackName? phrase = none := by
    have first : callbackName? (headerPhrase addon) = none := rfl
    simp only [List.forall_mem_cons]
    exact ⟨first, by decide, by decide, by simp⟩
  have ending : ∀ phrase ∈ [tokens "NODE_MODULE(NODE_GYP_MODULE_NAME, Init) \x7d"],
      callbackName? phrase = none := by
    simp only [List.forall_mem_singleton]
    decide
  rw [sourcePhrases, callbacks_append_of_forall_none header, callbacks_wrapperPhrases,
    callbacks_append_of_forall_none fun _ => callbackName?_of_mem_initPhrases]
  rw [← List.append_nil [tokens "NODE_MODULE(NODE_GYP_MODULE_NAME, Init) \x7d"],
    callbacks_append_of_forall_none ending, callbacks, List.append_nil]

private theorem registrations?_cons_of_ne {phrase : List Token} (other : phrase ≠ initPhrase)
    (rest : List (List Token)) : registrations? (phrase :: rest) = registrations? rest := by
  rw [registrations?, if_neg other]

private theorem ne_initPhrase_of_mem_callbackPhrases {name : String} {body : List Statement}
    {phrase : List Token} (member : phrase ∈ callbackPhrases name body) : phrase ≠ initPhrase := by
  rintro rfl
  have unread : Instruction.ofPhrase? initPhrase = none := by decide
  have unnamed : callbackName? initPhrase = none := by decide
  have notInstruction (instruction : Instruction) : instruction.phrase ≠ initPhrase := by
    intro same
    have read := instruction.ofPhrase?_phrase
    rw [same, unread] at read
    cases read
  rcases List.mem_cons.mp member with opening | inBody
  · have read : callbackName? (callbackOpening name) = some name := rfl
    rw [← opening, unnamed] at read
    cases read
  · rcases List.mem_append.mp inBody with inside | closing
    · obtain ⟨instruction, -, same⟩ := List.mem_map.mp inside
      exact notInstruction instruction same
    · exact notInstruction .close (List.mem_singleton.mp closing).symm

private theorem registrations?_append_of_forall_ne {front : List (List Token)}
    (others : ∀ phrase ∈ front, phrase ≠ initPhrase) (rest : List (List Token)) :
    registrations? (front ++ rest) = registrations? rest := by
  induction front with
  | nil => rfl
  | cons phrase front inductionHypothesis =>
      have tail := inductionHypothesis (fun other member => others other (by simp [member]))
      rw [List.cons_append, registrations?_cons_of_ne (others phrase (by simp)), tail]

private theorem registration?_registrationPhrase (function : ExportedFunction) :
    registration? (registrationPhrase function) =
      some (function.scriptName, wrapperName function) := by
  rw [registration?, registrationPhrase, after?_append]
  simp

/-- The registrations are read up to the brace that closes their function. -/
theorem registrations?_initPhrases (functions : List ExportedFunction) (rest : List (List Token)) :
    registrations? (initPhrases functions ++ rest) =
      some (functions.map fun function => (function.scriptName, wrapperName function)) := by
  have inside : ∀ phrase ∈ functions.map registrationPhrase,
      decide (phrase ≠ tokens "\x7d") = true := by
    intro phrase member
    obtain ⟨function, -, rfl⟩ := List.mem_map.mp member
    apply decide_eq_true
    intro same
    have unread : registration? (tokens "\x7d") = none := by decide
    have read := registration?_registrationPhrase function
    rw [same, unread] at read
    cases read
  have each : (functions.map registrationPhrase).mapM registration? =
      some (functions.map fun function => (function.scriptName, wrapperName function)) := by
    rw [List.mapM_map]
    exact Traversal.mapM_eq_some_map fun function _ => registration?_registrationPhrase function
  rw [initPhrases, List.cons_append, registrations?, if_pos rfl, List.append_assoc,
    List.takeWhile_append_of_pos inside, List.singleton_append,
    List.takeWhile_cons_of_neg (by simp [Instruction.phrase]), List.append_nil, each]

theorem registrations?_sourcePhrases (addon : String) (functions : List ExportedFunction) :
    registrations? (sourcePhrases addon functions) =
      some (functions.map fun function => (function.scriptName, wrapperName function)) := by
  have header : ∀ phrase ∈
      [headerPhrase addon, tokens "using namespace v8;", tokens "using namespace node;"],
      phrase ≠ initPhrase := by
    have first : headerPhrase addon ≠ initPhrase := by
      intro same
      have mine : (headerPhrase addon).head? = some (.mark '#') := rfl
      have other : initPhrase.head? = some (.word "void") := by decide
      rw [same, other] at mine
      cases mine
    simp only [List.forall_mem_cons]
    exact ⟨first, by decide, by decide, by simp⟩
  have wrappers : ∀ phrase ∈ wrapperPhrases functions, phrase ≠ initPhrase := by
    intro phrase member
    obtain ⟨function, -, inWrapper⟩ := List.mem_flatMap.mp member
    exact ne_initPhrase_of_mem_callbackPhrases inWrapper
  rw [sourcePhrases, registrations?_append_of_forall_ne header,
    registrations?_append_of_forall_ne wrappers, registrations?_initPhrases]

end AddonBindings.Native
