import AddonBindings.Native.Wrapper
import AddonBindings.Proofs.Text.Phrase
import AddonBindings.Proofs.Traversal

/-!
Contract: the instructions of a generated callback, as they are read from its text.

Owns:
- the instructions, one for each phrase of a callback;
- the phrase of an instruction, and reading the instruction from the phrase;
- the law that reading a phrase gives the instruction it was made from.

Does not own: which lines have these phrases, which is in
`AddonBindings.Proofs.Native.StatementReading`.
-/

namespace AddonBindings.Native

open Text (Token)

/-- An instruction: what one phrase of a callback says. -/
inductive Instruction where
  | takeIsolate
  | openScope
  /-- What follows up to `close` only happens if fewer arguments are given. -/
  | ifFewerArguments (count : Nat)
  /-- What follows up to `close` only happens if the argument is no text. -/
  | ifNotText (index : Nat)
  /-- What follows up to `close` only happens if the argument is no number. -/
  | ifNotNumber (index : Nat)
  | raise (message : String)
  | leave
  | close
  | holdText (holder : String) (index : Nat)
  | pointTo (variableName holder : String)
  | takeNumber (variableName : String) (index : Nat)
  | call (keptAs : Option String) (function : String) (arguments : List String)
  | convert (variableName : String) (value : ReturnValue) (kept : String)
  | giveBack (variableName : String)
deriving DecidableEq, Repr

namespace Instruction

open Text

def callTokens (function : String) (arguments : List String) : List Token :=
  .word function :: .mark '(' ::
    ([.mark ','].intercalate (arguments.map fun argument => [.word argument]) ++
      [.mark ')', .mark ';'])

def conversionTokens (kept : String) : ReturnValue → List Token
  | .text =>
      tokens "String::NewFromUtf8(isolate," ++
        .word kept :: tokens ", NewStringType::kNormal).ToLocalChecked();"
  | .number => tokens "Number::New(isolate," ++ .word kept :: tokens ");"

def phrase : Instruction → List Token
  | takeIsolate => tokens "Isolate *isolate = args.GetIsolate();"
  | openScope => tokens "HandleScope scope(isolate);"
  | ifFewerArguments count =>
      tokens "if (args.Length() <" ++ .word (Nat.repr count) :: tokens ") \x7b"
  | ifNotText index =>
      tokens "if (!args[" ++ .word (Nat.repr index) :: tokens "]->IsString()) \x7b"
  | ifNotNumber index =>
      tokens "if (!args[" ++ .word (Nat.repr index) :: tokens "]->IsNumber()) \x7b"
  | raise message =>
      .word "isolate" :: .mark '-' :: (tokens ">ThrowException(Exception::TypeError(" ++
        (tokens "String::NewFromUtf8(isolate," ++
          .quoted message :: tokens ").ToLocalChecked()));"))
  | leave => tokens "return;"
  | close => tokens "\x7d"
  | holdText holder index =>
      tokens "String::Utf8Value" ++ .word holder :: (tokens "(isolate, args[" ++
        .word (Nat.repr index) :: tokens "]);")
  | pointTo variableName holder =>
      tokens "char *" ++ .word variableName :: (tokens "= *" ++ .word holder :: tokens ";")
  | takeNumber variableName index =>
      tokens "auto" ++ .word variableName :: (tokens "= args[" ++
        .word (Nat.repr index) :: tokens "].As<Number>()->Value();")
  | call none function arguments => callTokens function arguments
  | call (some variableName) function arguments =>
      tokens "auto" ++ .word variableName :: (tokens "=" ++ callTokens function arguments)
  | convert variableName value kept =>
      tokens "auto" ++ .word variableName :: (tokens "=" ++ conversionTokens kept value)
  | giveBack variableName =>
      tokens "args.GetReturnValue().Set(" ++ .word variableName :: tokens ");"

/-! ## Reading a phrase -/

def itemWord? : List Token → Option String
  | [.word text] => some text
  | _ => none

def call? (keptAs : Option String) (function : String) (listed : List Token) : Option Instruction := do
  let (items, rest) ← closedItems? listed
  let arguments ← items.mapM itemWord?
  if rest = tokens ";" then some (call keptAs function arguments) else none

def condition? (listed : List Token) : Option Instruction :=
  match after? (tokens "args.Length() <") listed, after? (tokens "!args[") listed with
  | some (.word count :: rest), _ =>
      if rest = tokens ") \x7b" then (number? count).map ifFewerArguments else none
  | _, some (.word index :: rest) =>
      if rest = tokens "]->IsString()) \x7b" then (number? index).map ifNotText
      else if rest = tokens "]->IsNumber()) \x7b" then (number? index).map ifNotNumber
      else none
  | _, _ => none

/-- A raised error, from the tokens after the isolate and the minus sign. -/
def raise? (listed : List Token) : Option Instruction := do
  let error ← after? (tokens ">ThrowException(Exception::TypeError(") listed
  let text ← after? (tokens "String::NewFromUtf8(isolate,") error
  match text with
  | .quoted message :: rest =>
      if rest = tokens ").ToLocalChecked()));" then some (raise message) else none
  | _ => none

/-- The holder of a text, from the tokens after the name of its class. -/
def holdText? (listed : List Token) : Option Instruction :=
  match after? (tokens "::Utf8Value") listed with
  | some (.word holder :: rest) =>
      match after? (tokens "(isolate, args[") rest with
      | some (.word index :: rest) =>
          if rest = tokens "]);" then (number? index).map (holdText holder) else none
      | _ => none
  | _ => none

/-- A pointer to a held text, from the tokens after the name of its type. -/
def pointTo? : List Token → Option Instruction
  | .mark '*' :: .word variableName :: rest =>
      match after? (tokens "= *") rest with
      | some (.word holder :: rest) =>
          if rest = tokens ";" then some (pointTo variableName holder) else none
      | _ => none
  | _ => none

def value? (variableName : String) : List Token → Option Instruction
  | .word source :: .mark '[' :: .word index :: rest =>
      if source = "args" ∧ rest = tokens "].As<Number>()->Value();" then
        (number? index).map (takeNumber variableName)
      else none
  | .word function :: .mark '(' :: listed => call? (some variableName) function listed
  | listed =>
      match after? (tokens "String::NewFromUtf8(isolate,") listed,
          after? (tokens "Number::New(isolate,") listed with
      | some (.word kept :: rest), _ =>
          if rest = tokens ", NewStringType::kNormal).ToLocalChecked();" then
            some (convert variableName .text kept)
          else none
      | _, some (.word kept :: rest) =>
          if rest = tokens ");" then some (convert variableName .number kept) else none
      | _, _ => none

/-- The returned variable, from the tokens after the arguments. -/
def giveBack? (listed : List Token) : Option Instruction :=
  match after? (tokens ".GetReturnValue().Set(") listed with
  | some (.word variableName :: rest) =>
      if rest = tokens ");" then some (giveBack variableName) else none
  | _ => none

/-- The instruction of a phrase.  The second token tells which kind of instruction
it can be; only a call can start with any word. -/
def ofPhrase? : List Token → Option Instruction
  | [.mark c] => if c = '\x7d' then some close else none
  | .word first :: .mark '(' :: rest =>
      if rest.getLast? = some (.mark '\x7b') then
        if first = "if" then condition? rest else none
      else call? none first rest
  | .word first :: .word second :: rest =>
      if first = "auto" then
        match rest with
        | .mark '=' :: rest => value? second rest
        | _ => none
      else if first = "HandleScope" ∧ second = "scope" ∧ rest = tokens "(isolate);" then
        some openScope
      else none
  | .word first :: .mark c :: rest =>
      if first = "return" ∧ c = ';' ∧ rest = [] then some leave
      else if first = "isolate" ∧ c = '-' then raise? rest
      else if first = "String" then holdText? (.mark c :: rest)
      else if first = "char" then pointTo? (.mark c :: rest)
      else if first = "args" then giveBack? (.mark c :: rest)
      else if first = "Isolate" ∧ .mark c :: rest = tokens "*isolate = args.GetIsolate();" then
        some takeIsolate
      else none
  | _ => none

/-! ## Reading undoes writing -/

private theorem call?_intercalate (keptAs : Option String) (function : String)
    (arguments : List String) :
    call? keptAs function
        ([.mark ','].intercalate (arguments.map fun argument => [.word argument]) ++
          [.mark ')', .mark ';']) =
      some (call keptAs function arguments) := by
  have semicolon : tokens ";" = [.mark ';'] := by decide
  have items (item : List Token) (member : item ∈ arguments.map fun argument => [Token.word argument]) :
      isItem item = true := by
    obtain ⟨argument, -, rfl⟩ := List.mem_map.mp member
    simp [isItem]
  have found (argument : String) (_ : argument ∈ arguments) :
      (itemWord? ∘ fun argument => [Token.word argument]) argument = some (id argument) := rfl
  have words : (arguments.map fun argument => [Token.word argument]).mapM itemWord? =
      some arguments := by
    rw [List.mapM_map, Traversal.mapM_eq_some_map found, List.map_id]
  rw [call?, closedItems?_intercalate items]
  simp [words, semicolon]

/-- No call looks like a condition: it ends with a semicolon. -/
theorem ofPhrase?_callTokens (function : String) (arguments : List String) :
    ofPhrase? (callTokens function arguments) = some (call none function arguments) := by
  have last : ([.mark ','].intercalate (arguments.map fun argument => [.word argument]) ++
      [.mark ')', .mark ';'] : List Token).getLast? ≠ some (.mark '\x7b') := by
    simp [List.getLast?_append]
  rw [callTokens, ofPhrase?, if_neg last, call?_intercalate]

private theorem ofPhrase?_raise (message : String) :
    ofPhrase? (raise message).phrase = some (raise message) := by
  show raise? (tokens ">ThrowException(Exception::TypeError(" ++
    (tokens "String::NewFromUtf8(isolate," ++
      .quoted message :: tokens ").ToLocalChecked()));")) = _
  simp [raise?]

/-- Reading the phrase of an instruction gives the instruction. -/
theorem ofPhrase?_phrase (instruction : Instruction) :
    ofPhrase? instruction.phrase = some instruction := by
  cases instruction with
  | takeIsolate => decide
  | openScope => decide
  | ifFewerArguments count =>
      show (number? (Nat.repr count)).map ifFewerArguments = _
      rw [number?_repr, Option.map_some]
  | ifNotText index =>
      show (number? (Nat.repr index)).map ifNotText = _
      rw [number?_repr, Option.map_some]
  | ifNotNumber index =>
      show (number? (Nat.repr index)).map ifNotNumber = _
      rw [number?_repr, Option.map_some]
  | raise message => exact ofPhrase?_raise message
  | leave => decide
  | close => decide
  | holdText holder index =>
      show (number? (Nat.repr index)).map (holdText holder) = _
      rw [number?_repr, Option.map_some]
  | pointTo variableName holder => rfl
  | takeNumber variableName index =>
      show (number? (Nat.repr index)).map (takeNumber variableName) = _
      rw [number?_repr, Option.map_some]
  | call keptAs function arguments =>
      cases keptAs with
      | none => exact ofPhrase?_callTokens function arguments
      | some variableName => exact call?_intercalate (some variableName) function arguments
  | convert variableName value kept => cases value <;> rfl
  | giveBack variableName => rfl

theorem isPhrase_phrase (instruction : Instruction) : isPhrase instruction.phrase = true := by
  have calls (function : String) (arguments : List String) :
      isPhrase (callTokens function arguments) = true := by
    have inside (token : Token)
        (member : token ∈ [.mark ','].intercalate (arguments.map fun argument => [.word argument])) :
        endsPhrase token = false := by
      rcases mem_intercalate member with rfl | ⟨item, inItems, inItem⟩
      · decide
      · obtain ⟨argument, -, rfl⟩ := List.mem_map.mp inItems
        rw [List.mem_singleton.mp inItem, endsPhrase]
    have opened : ∀ token ∈ [.word function, .mark '('], endsPhrase token = false := by
      simp [endsPhrase]
    exact isPhrase_append opened (isPhrase_append inside (by decide))
  cases instruction with
  | call keptAs function arguments =>
      cases keptAs with
      | none => exact calls function arguments
      | some variableName =>
          have opened : ∀ token ∈ tokens "auto" ++ .word variableName :: tokens "=",
              endsPhrase token = false := by
            have assigned : tokens "auto" ++ .word variableName :: tokens "=" =
                [.word "auto", .word variableName, .mark '='] := rfl
            rw [assigned]
            simp [endsPhrase]
          have whole := isPhrase_append opened (calls function arguments)
          rwa [List.append_assoc, List.cons_append] at whole
  | convert variableName value kept => cases value <;> rfl
  | _ => rfl

end Instruction

end AddonBindings.Native
