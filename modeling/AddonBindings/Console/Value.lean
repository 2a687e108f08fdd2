import AddonBindings.Console.ValueToken
import AddonBindings.Text.Alphanumeric
import AddonBindings.Text.Blank

/-!
Contract: the values that may stand in an action tag.

Owns:
- numbers and their sums, texts, the words for truth and for nothing, tuples, sets and
  mappings, and which of them may be a key;
- the name of an action with or without values in parentheses.

Does not own: what actions do, which is nothing here.
-/

namespace AddonBindings.Console.Value

/-- What is known of a value.  Signs and sums are for numbers only. -/
inductive Shape where
  | number (isImaginary isSigned : Bool)
  | text (isBytes : Bool)
  /-- Any other value that may be a key. -/
  | key
  /-- A value that may not be a key. -/
  | collection
  /-- The name of the empty set, without parentheses after it. -/
  | setName
deriving DecidableEq, Repr

def Shape.isKey : Shape → Bool
  | collection | setName => false
  | _ => true

inductive Entry where
  | start
  /-- After a sign in front of a number. -/
  | sign
  /-- After a number and a sign behind it. -/
  | sum
  | value (shape : Shape)
  /-- After the opening parenthesis of the empty set. -/
  | call
deriving DecidableEq, Repr

/-- The entry after an operand.  A sum has an imaginary number on the right. -/
def Entry.withOperand : Entry → Shape → Option Entry
  | start, shape => some (.value shape)
  | sign, .number isImaginary false => some (.value (.number isImaginary true))
  | sum, .number true false => some (.value .key)
  | _, _ => none

/-- What has been read between brackets, or outside of all brackets. -/
structure Frame where
  /-- The bracket is curly. -/
  isCurly : Bool
  entry : Entry := .start
  /-- A comma has been read. -/
  isSeparated : Bool := false
  /-- The entries have keys. -/
  isPaired : Bool := false
  /-- The key of the entry has been read. -/
  hasKey : Bool := false
  /-- All entries so far may be keys. -/
  areKeys : Bool := true
deriving DecidableEq, Repr

def Frame.separate (frame : Frame) : Option Frame :=
  match frame.entry with
  | .value .setName => none
  | .value shape =>
      let allowed := !frame.isCurly || (if frame.isPaired then frame.hasKey else shape.isKey)
      if allowed then
        some { frame with
          entry := .start, isSeparated := true, hasKey := false,
          areKeys := frame.areKeys && shape.isKey }
      else none
  | _ => none

/-- The frame after a colon, which ends a key.  Entries with keys and entries without do
not mix. -/
def Frame.endKey (frame : Frame) : Option Frame :=
  match frame.entry with
  | .value shape =>
      if frame.isCurly && !frame.hasKey && shape.isKey && (frame.isPaired || !frame.isSeparated) then
        some { frame with entry := .start, isPaired := true, hasKey := true }
      else none
  | _ => none

def Frame.close (frame : Frame) : Option Shape :=
  let tuple (areKeys : Bool) : Shape := if areKeys then .key else .collection
  match frame.entry with
  | .start =>
      if frame.hasKey then none
      else if frame.isCurly then some .collection
      else some (tuple frame.areKeys)
  | .value shape =>
      if frame.isCurly then frame.separate.map fun _ => .collection
      else if frame.isSeparated then frame.separate.map fun closed => tuple closed.areKeys
      else
        match shape with
        -- only texts that stand side by side are joined
        | .text _ => some .key
        | other => some other
  | _ => none

/-- The frames that are open, the innermost first, and the frame outside of all
brackets. -/
structure State where
  inner : List Frame := []
  outer : Frame := ⟨false, .start, false, false, false, true⟩
  /-- The line with the value has ended. -/
  ended : Bool := false
deriving DecidableEq, Repr

/-- The most brackets that may be open. -/
def depthLimit : Nat := 200

def State.current (state : State) : Frame :=
  state.inner.headD state.outer

def State.withCurrent (state : State) (frame : Frame) : State :=
  match state.inner with
  | [] => { state with outer := frame }
  | _ :: rest => { state with inner := frame :: rest }

def State.withEntry (state : State) (entry : Entry) : State :=
  state.withCurrent { state.current with entry }

def State.withOperand (state : State) (shape : Shape) : Option State :=
  (state.current.entry.withOperand shape).map state.withEntry

def State.open (state : State) (isCurly : Bool) : Option State :=
  if depthLimit ≤ state.inner.length then none
  else
    match state.current.entry with
    | .value .setName => if isCurly then none else some (state.withEntry .call)
    | .value _ | .call => none
    | _ => some { state with inner := ⟨isCurly, .start, false, false, false, true⟩ :: state.inner }

def State.close (state : State) (isCurly : Bool) : Option State :=
  match state.current.entry, state.inner with
  | .call, _ => if isCurly then none else some (state.withEntry (.value .collection))
  | _, frame :: rest =>
      if frame.isCurly = isCurly then do
        let shape ← frame.close
        { state with inner := rest }.withOperand shape
      else none
  | _, [] => none

def State.sign (state : State) : Option State :=
  match state.current.entry with
  | .start => some (state.withEntry .sign)
  | .value (.number false _) => some (state.withEntry .sum)
  | _ => none

def State.mark (state : State) (c : Char) : Option State :=
  if c = '(' then state.open false
  else if c = ')' then state.close false
  else if c = '\x7b' then state.open true
  else if c = '\x7d' then state.close true
  else if c = ',' then state.current.separate.map state.withCurrent
  else if c = ':' then state.current.endKey.map state.withCurrent
  else if c = '+' ∨ c = '-' then state.sign
  else none

/-- The state after one more token.  Texts side by side are one text. -/
def State.next (state : State) (token : Token) : Option State :=
  match token with
  | .lineEnd =>
      let unread := state.outer.entry = .start && !state.outer.isSeparated
      let isOutside := state.inner.isEmpty && state.outer.entry != .call
      some (if isOutside && !unread then { state with ended := true } else state)
  | .indent =>
      if state.inner.isEmpty && state.outer.entry != .call then none else some state
  | token =>
      if state.ended then none
      else
        match token with
        | .number isImaginary => state.withOperand (.number isImaginary false)
        | .text isBytes =>
            match state.current.entry with
            | .value (.text other) => if other = isBytes then some state else none
            | _ => state.withOperand (.text isBytes)
        | .word "True" | .word "False" | .word "None" => state.withOperand .key
        | .word "set" => state.withOperand .setName
        | .dots => state.withOperand .key
        | .mark c => state.mark c
        | _ => none

def State.isComplete (state : State) : Bool :=
  state.inner.isEmpty &&
    match state.outer.entry with
    | .value .setName => false
    | .value _ => true
    | .start => state.outer.isSeparated
    | _ => false

def isValue (cs : List Char) : Bool :=
  match tokens? cs with
  | some tokens => ((tokens.foldlM State.next {}).map State.isComplete).getD false
  | none => false

/-- The characters are the name of an action, the values for it in parentheses, both, or
a value without parentheses. -/
def isAction (cs : List Char) : Bool :=
  let trimmed := Text.trimChars cs
  let rest := trimmed.dropWhile fun c => Text.isAlphanumeric c || c == '.'
  let isEnclosed := rest.head? = some '(' && rest.getLast? = some ')' && !rest.contains '\n'
  rest.isEmpty || isValue (if isEnclosed then rest else trimmed)

end AddonBindings.Console.Value
