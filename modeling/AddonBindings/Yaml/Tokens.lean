import AddonBindings.Yaml.Property

/-!
Contract: a YAML text as a sequence of tokens.

Owns:
- the tokens that indentation stands for;
- keys that are only known as keys when their colon is reached;
- where each kind of token may start.

Does not own: which sequences of tokens are documents, which is in
`AddonBindings.Yaml.Composition`.
-/

namespace AddonBindings.Yaml

/-- A token that is a key if a colon follows it on its line. -/
structure PossibleKey where
  /-- The number of tokens before it. -/
  number : Nat
  /-- It has to be a key, since it starts a line of a block mapping. -/
  required : Bool
  index : Nat
  line : Nat
  column : Nat
deriving DecidableEq, Repr

structure Cutting where
  cursor : Cursor
  /-- The number of open flow collections. -/
  depth : Nat
  /-- The column of the innermost block collection. -/
  indent : Int
  /-- The columns of the block collections around it. -/
  outer : List Int
  /-- A key may start here. -/
  keyAllowed : Bool
  /-- Possible keys, one for each depth at most. -/
  possible : List (Nat × PossibleKey)
  tokens : Array Token
deriving Repr

namespace Cutting

/-- Before the first token. -/
def start (cs : List Char) : Cutting := ⟨Cursor.start cs, 0, -1, [], true, [], #[]⟩

def inFlow (state : Cutting) : Bool := state.depth != 0

def push (state : Cutting) (token : Token) : Cutting :=
  { state with tokens := state.tokens.push token }

/-- After a token put in before the last ones. -/
def insertAt (state : Cutting) (number : Nat) (token : Token) : Cutting :=
  { state with
    tokens := (state.tokens.extract 0 number).push token ++
      state.tokens.extract number state.tokens.size }

def moveTo (state : Cutting) (cursor : Cursor) : Cutting := { state with cursor := cursor }

/-- The cursor moves over blanks, comments and line breaks, at most `count` times.
Outside of flow collections a new line may start with a key. -/
def toNextToken : Nat → Cutting → Cutting
  | 0, state => state
  | count + 1, state =>
      let cursor := state.cursor.skipSpaces.skipComment
      match cursor.takeBreak? with
      | none => state.moveTo cursor
      | some (_, cursor) =>
          toNextToken count
            { state with cursor := cursor, keyAllowed := state.keyAllowed || !state.inFlow }

/-- The possible key can no longer be one: its line is over, or it is too long. -/
def isStale (state : Cutting) (key : PossibleKey) : Bool :=
  key.line != state.cursor.line || 1024 < state.cursor.index - key.index

/-- Without the keys that can no longer be one; none of them may be required. -/
def dropStale (state : Cutting) : Except Fault Cutting :=
  if state.possible.any fun (_, key) => state.isStale key && key.required then malformed
  else .ok { state with possible := state.possible.filter fun (_, key) => !state.isStale key }

/-- Without the possible key of this depth; it may not be required. -/
def dropPossible (state : Cutting) : Except Fault Cutting :=
  match state.possible.lookup state.depth with
  | some key =>
      if key.required then malformed
      else .ok { state with possible := state.possible.filter fun (depth, _) => depth != state.depth }
  | none => .ok state

/-- With the next token as a possible key, if one may start here. -/
def savePossible (state : Cutting) : Except Fault Cutting := do
  if !state.keyAllowed then return state
  else
    let required := !state.inFlow && state.indent = Int.ofNat state.cursor.column
    let state ← state.dropPossible
    let cursor := state.cursor
    let key : PossibleKey := ⟨state.tokens.size, required, cursor.index, cursor.line, cursor.column⟩
    return { state with possible := (state.depth, key) :: state.possible }

def closeTo (column : Int) : List Int → Cutting → Cutting
  | [], state => state
  | outer :: others, state =>
      if state.inFlow || state.indent ≤ column then state
      else
        closeTo column others
          { state with indent := outer, outer := others, tokens := state.tokens.push .blockEnd }

/-- Block collections to the right of a column are closed. -/
def unwind (state : Cutting) (column : Int) : Cutting := closeTo column state.outer state

/-- A block collection is opened at a column, if it lies further to the right. -/
def openBlock? (state : Cutting) (column : Nat) : Option Cutting :=
  if state.indent < Int.ofNat column then
    some { state with indent := Int.ofNat column, outer := state.indent :: state.outer }
  else none

/-- A block collection is opened with its token, if it lies further to the right. -/
def openBlock (state : Cutting) (token : Token) : Cutting :=
  match state.openBlock? state.cursor.column with
  | some opened => opened.push token
  | none => state

def mark (state : Cutting) (token : Token) (width : Nat) : Cutting :=
  (state.moveTo (state.cursor.skip width)).push token

/-- After the last token. -/
def finish (state : Cutting) : Except Fault Cutting := do
  let state ← (state.unwind (-1)).dropPossible
  return state.push .streamEnd

def directive (state : Cutting) : Except Fault Cutting := do
  let state ← (state.unwind (-1)).dropPossible
  let (token, cursor) ← scanDirective state.cursor
  return { (state.moveTo cursor).push token with keyAllowed := false }

def documentMark (state : Cutting) (token : Token) : Except Fault Cutting := do
  let state ← (state.unwind (-1)).dropPossible
  return { state.mark token 3 with keyAllowed := false }

def flowStart (state : Cutting) (token : Token) : Except Fault Cutting := do
  let state ← state.savePossible
  return { state.mark token 1 with depth := state.depth + 1, keyAllowed := true }

def flowEnd (state : Cutting) (token : Token) : Except Fault Cutting := do
  let state ← state.dropPossible
  if state.depth = 0 then malformed
  else return { state.mark token 1 with depth := state.depth - 1, keyAllowed := false }

def flowEntry (state : Cutting) : Except Fault Cutting := do
  let state ← state.dropPossible
  return { state.mark .flowEntry 1 with keyAllowed := true }

/-- A hyphen before an item. -/
def blockEntry (state : Cutting) : Except Fault Cutting := do
  if !state.inFlow && !state.keyAllowed then malformed
  else
    let state := if state.inFlow then state else state.openBlock .blockSequenceStart
    let state ← state.dropPossible
    return { state.mark .blockEntry 1 with keyAllowed := true }

def explicitKey (state : Cutting) : Except Fault Cutting := do
  if !state.inFlow && !state.keyAllowed then malformed
  else
    let state := if state.inFlow then state else state.openBlock .blockMappingStart
    let state ← state.dropPossible
    return { state.mark .key 1 with keyAllowed := !state.inFlow }

/-- A colon before a value.  If a possible key stands before it, the key and
perhaps the start of a block mapping are put in where it starts. -/
def value (state : Cutting) : Except Fault Cutting := do
  match state.possible.lookup state.depth with
  | some key =>
      let state :=
        { state with possible := state.possible.filter fun (depth, _) => depth != state.depth }
      let state := state.insertAt key.number .key
      let state :=
        if state.inFlow then state
        else
          match state.openBlock? key.column with
          | some opened => opened.insertAt key.number .blockMappingStart
          | none => state
      return { state.mark .value 1 with keyAllowed := false }
  | none =>
      if !state.inFlow && !state.keyAllowed then malformed
      else
        let state := if state.inFlow then state else state.openBlock .blockMappingStart
        let state := { state with keyAllowed := !state.inFlow }
        let state ← state.dropPossible
        return state.mark .value 1

def keyPart (state : Cutting) (scan : Cursor → Except Fault (Token × Cursor)) :
    Except Fault Cutting := do
  let state ← state.savePossible
  let (token, cursor) ← scan state.cursor
  return { (state.moveTo cursor).push token with keyAllowed := false }

def blockScalar (state : Cutting) (folded : Bool) : Except Fault Cutting := do
  let state ← state.dropPossible
  let (text, cursor) ← scanBlock folded state.indent state.cursor
  return { (state.moveTo cursor).push (.scalar text false) with keyAllowed := true }

def plain (state : Cutting) : Except Fault Cutting := do
  let state ← state.savePossible
  let (text, newLine, cursor) := scanPlain state.inFlow (state.indent + 1) state.cursor
  return { (state.moveTo cursor).push (.scalar text true) with keyAllowed := newLine }

def startsPlain (state : Cutting) (c : Char) : Bool :=
  let next := state.cursor.peekAt 1
  let marks :=
    [ '-', '?', ':', ',', '[', ']', '\x7b', '\x7d', '#', '&', '*', '!', '|', '>', '\'', '"', '%',
      '@', '`' ]
  !(isSpaceOrTab c || isBreak c || c ∈ marks) ||
    (!isGap next && (c = '-' || (!state.inFlow && (c = '?' || c = ':'))))

def tokenAt (state : Cutting) (c : Char) : Except Fault Cutting :=
  let cursor := state.cursor
  let atStart := cursor.column == 0
  let gapNext := isGap (cursor.peekAt 1)
  if c = '%' && atStart then state.directive
  else if atStart && cursor.seesTriple '-' then state.documentMark .documentStart
  else if atStart && cursor.seesTriple '.' then state.documentMark .documentEnd
  else if c = '[' then state.flowStart .flowSequenceStart
  else if c = '\x7b' then state.flowStart .flowMappingStart
  else if c = ']' then state.flowEnd .flowSequenceEnd
  else if c = '\x7d' then state.flowEnd .flowMappingEnd
  else if c = ',' then state.flowEntry
  else if c = '-' && gapNext then state.blockEntry
  else if c = '?' && (state.inFlow || gapNext) then state.explicitKey
  else if c = ':' && (state.inFlow || gapNext) then state.value
  else if c = '*' then
    state.keyPart fun cursor => (scanName cursor).map fun (name, cursor) => (.alias name, cursor)
  else if c = '&' then
    state.keyPart fun cursor => (scanName cursor).map fun (name, cursor) => (.anchor name, cursor)
  else if c = '!' then state.keyPart scanTag
  else if c = '|' && !state.inFlow then state.blockScalar false
  else if c = '>' && !state.inFlow then state.blockScalar true
  else if c = '\'' || c = '"' then
    state.keyPart fun cursor =>
      (scanQuoted (c = '"') cursor).map fun (text, cursor) => (.scalar text false, cursor)
  else if state.startsPlain c then state.plain
  else malformed

/-- After the next token; the flag says that it was the last. -/
def next (state : Cutting) : Except Fault (Cutting × Bool) := do
  let state ← (toNextToken state.cursor.bound state).dropStale
  let state := state.unwind (Int.ofNat state.cursor.column)
  match state.cursor.peek with
  | none => return (← state.finish, true)
  | some c => return (← state.tokenAt c, false)

/-- The tokens up to the end of the text or to where it cannot be cut, in at most
`count` rounds. -/
def run : Nat → Cutting → List Token
  | 0, state => (state.push (.broken .malformed)).tokens.toList
  | count + 1, state =>
      match state.next with
      | .error fault => (state.push (.broken fault)).tokens.toList
      | .ok (state, true) => state.tokens.toList
      | .ok (state, false) => run count state

end Cutting

/-- The tokens of a text.  A byte order mark at the start is passed over. -/
def tokensOf (text : String) : List Token :=
  let cs := text.toList
  if cs.all isAllowed then
    let start := Cutting.start cs
    let start := if start.cursor.sees '\uFEFF' then start.moveTo start.cursor.step else start
    start.run (cs.length + 1)
  else [.broken .malformed]

end AddonBindings.Yaml
