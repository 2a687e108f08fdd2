import AddonBindings.Proofs.Native.SourceReading

/-!
Contract: what the instructions of a callback do.

Owns:
- the values that scripts pass, what the called function is given, and the effects
  that can be seen from outside;
- one step of a callback and a whole run;
- runs of instructions in sequence, of skipped blocks and after the callback is left.

Does not own: which effects a generated callback has, which is in
`AddonBindings.Proofs.Native.Execution`.
-/

namespace AddonBindings.Native

/-- A value that a script passes.  The numbers and the values that are neither text
nor number are not looked into. -/
inductive ScriptValue (Number Other : Type) where
  | text (value : String)
  | number (value : Number)
  | other (value : Other)

/-- What the called function is given for an argument. -/
inductive Passed (Number : Type) where
  | text (value : String)
  | number (value : Number)

/-- What can be seen of a callback from outside. -/
inductive Effect (Number Answer : Type) where
  /-- A type error is raised. -/
  | typeError (message : String)
  /-- The function exported from Go is called. -/
  | called (function : String) (given : List (Passed Number))
  /-- The conversion of the function's answer is set as the return value. -/
  | returned (value : ReturnValue) (answer : Answer)

/-- What a local variable holds. -/
inductive Held (Number Answer : Type) where
  | arguments
  | isolate
  | scope
  | text (value : String)
  | passed (value : Passed Number)
  | answer (value : Answer)
  | converted (value : ReturnValue) (answer : Answer)

/-- A callback in the middle of a run. -/
structure State (Number Answer : Type) where
  /-- The variables in scope, in the order of their declarations. -/
  locals : List (String × Held Number Answer)
  /-- The number of open blocks whose condition did not hold. -/
  skipping : Nat := 0
  /-- The callback has been left. -/
  hasLeft : Bool := false

variable {Number Other Answer : Type}

namespace State

/-- A callback before its first instruction: only its arguments are in scope. -/
def start : State Number Answer := ⟨[("args", .arguments)], 0, false⟩

def held? (state : State Number Answer) (variableName : String) : Option (Held Number Answer) :=
  state.locals.lookup variableName

/-- A new variable; no name is declared twice. -/
def declare (state : State Number Answer) (variableName : String) (held : Held Number Answer) :
    Option (State Number Answer) :=
  if variableName ∈ state.locals.map Prod.fst then none
  else some { state with locals := state.locals ++ [(variableName, held)] }

/-- What a call is given for a variable: only converted arguments can be passed. -/
def passed? (state : State Number Answer) (variableName : String) : Option (Passed Number) :=
  match state.held? variableName with
  | some (.passed value) => some value
  | _ => none

/-- A block is entered if its condition holds, and skipped otherwise. -/
def enterIf (state : State Number Answer) (holds : Bool) : State Number Answer :=
  if holds then state else { state with skipping := 1 }

end State

def ScriptValue.isText : ScriptValue Number Other → Bool
  | text _ => true
  | number _ | other _ => false

def ScriptValue.isNumber : ScriptValue Number Other → Bool
  | number _ => true
  | text _ | other _ => false

/-- One instruction of a callback that has not been left and is in no skipped block.
`go` answers calls.  There is no step where the compiler or the engine would refuse:
a name declared twice or not declared, a conversion of a value of another type, an
argument that is not given, or a call through a name that a variable hides. -/
def perform (go : String → List (Passed Number) → Answer) (arguments : List (ScriptValue Number Other))
    (state : State Number Answer) :
    Instruction → Option (List (Effect Number Answer) × State Number Answer)
  | .takeIsolate => (state.declare "isolate" .isolate).map ([], ·)
  | .openScope =>
      match state.held? "isolate" with
      | some .isolate => (state.declare "scope" .scope).map ([], ·)
      | _ => none
  | .ifFewerArguments count => some ([], state.enterIf (arguments.length < count))
  | .ifNotText index => some ([], state.enterIf (!arguments[index]?.any ScriptValue.isText))
  | .ifNotNumber index => some ([], state.enterIf (!arguments[index]?.any ScriptValue.isNumber))
  | .raise message =>
      match state.held? "isolate" with
      | some .isolate => some ([.typeError message], state)
      | _ => none
  | .leave => some ([], { state with hasLeft := true })
  | .close => some ([], state)
  | .holdText holder index =>
      match arguments[index]? with
      | some (.text value) => (state.declare holder (.text value)).map ([], ·)
      | _ => none
  | .pointTo variableName holder =>
      match state.held? holder with
      | some (.text value) => (state.declare variableName (.passed (.text value))).map ([], ·)
      | _ => none
  | .takeNumber variableName index =>
      match arguments[index]? with
      | some (.number value) => (state.declare variableName (.passed (.number value))).map ([], ·)
      | _ => none
  | .call keptAs function names =>
      match state.held? function, names.mapM state.passed?, keptAs with
      | none, some given, none => some ([.called function given], state)
      | none, some given, some variableName =>
          (state.declare variableName (.answer (go function given))).map ([.called function given], ·)
      | _, _, _ => none
  | .convert variableName value kept =>
      match state.held? kept with
      | some (.answer answer) => (state.declare variableName (.converted value answer)).map ([], ·)
      | _ => none
  | .giveBack variableName =>
      match state.held? variableName with
      | some (.converted value answer) => some ([.returned value answer], state)
      | _ => none

/-- One step of a callback: nothing happens after it has been left, and in a skipped
block only the braces count. -/
def step (go : String → List (Passed Number) → Answer) (arguments : List (ScriptValue Number Other))
    (state : State Number Answer) (instruction : Instruction) :
    Option (List (Effect Number Answer) × State Number Answer) :=
  if state.hasLeft then some ([], state)
  else if state.skipping = 0 then perform go arguments state instruction
  else some ([], { state with skipping := instruction.depthAfter state.skipping })

/-- A run of instructions: the effects in their order, and the state at the end. -/
def run (go : String → List (Passed Number) → Answer) (arguments : List (ScriptValue Number Other)) :
    State Number Answer → List Instruction →
      Option (List (Effect Number Answer) × State Number Answer)
  | state, [] => some ([], state)
  | state, instruction :: rest => do
      let (effects, next) ← step go arguments state instruction
      let (more, final) ← run go arguments next rest
      return (effects ++ more, final)

/-- The effects of a callback on the arguments of a script. -/
def execute (go : String → List (Passed Number) → Answer)
    (arguments : List (ScriptValue Number Other)) (instructions : List Instruction) :
    Option (List (Effect Number Answer)) :=
  (run go arguments .start instructions).map Prod.fst

/-! ## Runs in sequence -/

variable {go : String → List (Passed Number) → Answer} {arguments : List (ScriptValue Number Other)}

/-- Running a list of instructions is running its two parts, one after the other. -/
theorem run_append {state middle final : State Number Answer} {front back : List Instruction}
    {effects more : List (Effect Number Answer)}
    (first : run go arguments state front = some (effects, middle))
    (second : run go arguments middle back = some (more, final)) :
    run go arguments state (front ++ back) = some (effects ++ more, final) := by
  induction front generalizing state effects with
  | nil =>
      cases first
      exact second
  | cons instruction rest inductionHypothesis =>
      obtain ⟨⟨now, next⟩, stepped, tail⟩ := Option.bind_eq_some_iff.mp first
      obtain ⟨⟨later, last⟩, ran, same⟩ := Option.bind_eq_some_iff.mp tail
      cases same
      have rest := inductionHypothesis ran
      simp [run, stepped, rest]

theorem run_singleton {state next : State Number Answer} {instruction : Instruction}
    {effects : List (Effect Number Answer)}
    (stepped : step go arguments state instruction = some (effects, next)) :
    run go arguments state [instruction] = some (effects, next) := by
  simp [run, stepped]

theorem run_of_hasLeft {state : State Number Answer} (left : state.hasLeft = true)
    (instructions : List Instruction) :
    run go arguments state instructions = some ([], state) := by
  induction instructions with
  | nil => rfl
  | cons instruction rest inductionHypothesis => simp [run, step, left, inductionHypothesis]

end AddonBindings.Native
