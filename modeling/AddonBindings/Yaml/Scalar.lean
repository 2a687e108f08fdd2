import AddonBindings.Decimal.Reading
import AddonBindings.Yaml.Cursor
import AddonBindings.Yaml.Fault

/-!
Contract: the text of scalars.

Owns: plain, quoted and block scalars, with the folding of their lines.

Does not own: the values that these texts stand for, which are in
`AddonBindings.Yaml.ScalarValue`.

Loops take a bound on their rounds; every round moves the cursor, so the number of
characters left is enough.
-/

namespace AddonBindings.Yaml

/-- The text breaks the rules of the format. -/
def malformed {α : Type} : Except Fault α := .error .malformed

def Cursor.bound (cursor : Cursor) : Nat := cursor.rest.length + 1

/-! Quoted scalars. -/

def escaped? (c : Char) : Option Char :=
  match c with
  | '0' => some '\x00'
  | 'a' => some '\x07'
  | 'b' => some '\x08'
  | 't' | '\t' => some '\t'
  | 'n' => some '\n'
  | 'v' => some '\x0B'
  | 'f' => some '\x0C'
  | 'r' => some '\r'
  | 'e' => some '\x1B'
  | ' ' | '"' | '\\' | '/' => some c
  | 'N' => some '\u0085'
  | '_' => some '\u00A0'
  | 'L' => some '\u2028'
  | 'P' => some '\u2029'
  | _ => none

/-- The number of digits after the letter of a code point escape. -/
def codeLength? (c : Char) : Option Nat :=
  match c with
  | 'x' => some 2
  | 'u' => some 4
  | 'U' => some 8
  | _ => none

/-- The character with the code point that `length` digits spell. -/
def scanCode (length : Nat) (cursor : Cursor) : Except Fault (Char × Cursor) :=
  let digits := cursor.rest.take length
  match Decimal.natural? 16 digits with
  | none => malformed
  | some code =>
      if digits.length < length then malformed
      else if 0x7FFFFFFF < code then .error (.scalar .hugeCharacter)
      else if 0x10FFFF < code then .error (.scalar .notCharacter)
      else .ok (Char.ofNat code, cursor.skip length)

/-- The breaks of empty lines inside a quoted scalar; a mark between documents may
not stand there. -/
def scanQuotedBreaks : Nat → Cursor → Except Fault (List Char × Cursor)
  | 0, _ => malformed
  | count + 1, cursor =>
      if cursor.seesDocumentMark then malformed
      else
        let cursor := cursor.skipWhile isSpaceOrTab
        match cursor.takeBreak? with
        | none => .ok ([], cursor)
        | some (lineBreak, cursor) =>
            (scanQuotedBreaks count cursor).map fun (breaks, cursor) => (lineBreak :: breaks, cursor)

/-- What a line break and the empty lines after it stand for: a space, or the empty
lines alone. -/
def foldBreaks (lineBreak : Char) (breaks : List Char) : List Char :=
  if lineBreak ≠ '\n' then lineBreak :: breaks
  else if breaks.isEmpty then [' ']
  else breaks

def scanQuotedSpaces (cursor : Cursor) : Except Fault (List Char × Cursor) :=
  let (blanks, cursor) := cursor.span isSpaceOrTab
  match cursor.peek, cursor.takeBreak? with
  | none, _ => malformed
  | some _, none => .ok (blanks, cursor)
  | some _, some (lineBreak, cursor) =>
      (scanQuotedBreaks cursor.bound cursor).map fun (breaks, cursor) =>
        (foldBreaks lineBreak breaks, cursor)

/-- An escape inside a double-quoted scalar, after its backslash. -/
def scanEscape (cursor : Cursor) : Except Fault (List Char × Cursor) :=
  match cursor.peek with
  | none => malformed
  | some c =>
      match escaped? c, codeLength? c with
      | some plain, _ => .ok ([plain], cursor.step)
      | none, some length =>
          (scanCode length cursor.step).map fun (c, cursor) => ([c], cursor)
      | none, none =>
          match cursor.takeBreak? with
          | some (_, cursor) => scanQuotedBreaks cursor.bound cursor
          | none => malformed

/-- The rest of a quoted scalar, up to and with its closing mark. -/
def scanQuotedRest (double : Bool) : Nat → Cursor → Except Fault (List Char × Cursor)
  | 0, _ => malformed
  | count + 1, cursor =>
      let thenMore (front : List Char) (cursor : Cursor) : Except Fault (List Char × Cursor) :=
        (scanQuotedRest double count cursor).map fun (back, cursor) => (front ++ back, cursor)
      match cursor.peek with
      | none => malformed
      | some c =>
          if isSpaceOrTab c || isBreak c then do
            let (blanks, cursor) ← scanQuotedSpaces cursor
            thenMore blanks cursor
          else if double then
            if c = '"' then .ok ([], cursor.step)
            else if c = '\\' then do
              let (meaning, cursor) ← scanEscape cursor.step
              thenMore meaning cursor
            else thenMore [c] cursor.step
          else if c = '\'' then
            if cursor.peekAt 1 = some '\'' then thenMore [c] (cursor.skip 2)
            else .ok ([], cursor.step)
          else thenMore [c] cursor.step

def scanQuoted (double : Bool) (cursor : Cursor) : Except Fault (String × Cursor) :=
  (scanQuotedRest double cursor.bound cursor.step).map fun (cs, cursor) =>
    (String.ofList cs, cursor)

/-! Plain scalars. -/

/-- The number of characters of a plain scalar up to the next blank or mark. -/
def plainLength (inFlow : Bool) : List Char → Nat
  | [] => 0
  | c :: rest =>
      let closes (next : Option Char) : Bool :=
        isGap next || (inFlow && next.any fun c => c ∈ [',', '[', ']', '\x7b', '\x7d'])
      if isSpaceOrTab c || isBreak c then 0
      else if c = ':' && closes rest.head? then 0
      else if inFlow && c ∈ [',', '?', '[', ']', '\x7b', '\x7d'] then 0
      else plainLength inFlow rest + 1

/-- The breaks of empty lines after a line of a plain scalar; nothing if a mark
between documents follows. -/
def scanPlainBreaks : Nat → Cursor → Option (List Char) × Cursor
  | 0, cursor => (some [], cursor)
  | count + 1, cursor =>
      let cursor := cursor.skipSpaces
      match cursor.takeBreak? with
      | none => (some [], cursor)
      | some (lineBreak, cursor) =>
          if cursor.seesDocumentMark then (none, cursor)
          else
            let (breaks, cursor) := scanPlainBreaks count cursor
            (breaks.map (lineBreak :: ·), cursor)

/-- The blanks after a part of a plain scalar: what they stand for if the scalar
goes on, whether a new line was started, and the place after them.  Nothing if the
scalar cannot go on. -/
def scanPlainSpaces (cursor : Cursor) : Option (List Char) × Bool × Cursor :=
  let (blanks, cursor) := cursor.span (· == ' ')
  match cursor.takeBreak? with
  | none => (if blanks.isEmpty then none else some blanks, false, cursor)
  | some (lineBreak, cursor) =>
      if cursor.seesDocumentMark then (none, true, cursor)
      else
        let (breaks, cursor) := scanPlainBreaks cursor.bound cursor
        (breaks.map (foldBreaks lineBreak), true, cursor)

/-- The rest of a plain scalar after `spaces`, and whether its last blanks started
a new line. -/
def scanPlainRest (inFlow : Bool) (indent : Int) (spaces : List Char) (newLine : Bool) :
    Nat → Cursor → List Char × Bool × Cursor
  | 0, cursor => ([], newLine, cursor)
  | count + 1, cursor =>
      let length := if cursor.sees '#' then 0 else plainLength inFlow cursor.rest
      if length = 0 then ([], newLine, cursor)
      else
        let part := spaces ++ cursor.rest.take length
        match scanPlainSpaces (cursor.skip length) with
        | (none, newLine, cursor) => (part, newLine, cursor)
        | (some spaces, newLine, cursor) =>
            if cursor.sees '#' || (!inFlow && Int.ofNat cursor.column < indent) then
              (part, newLine, cursor)
            else
              let (more, newLine, cursor) := scanPlainRest inFlow indent spaces newLine count cursor
              (part ++ more, newLine, cursor)

/-- A plain scalar, and whether the blanks after it started a new line. -/
def scanPlain (inFlow : Bool) (indent : Int) (cursor : Cursor) : String × Bool × Cursor :=
  let (cs, newLine, cursor) := scanPlainRest inFlow indent [] false cursor.bound cursor
  (String.ofList cs, newLine, cursor)

/-! Block scalars. -/

/-- What happens to the line breaks at the end of a block scalar. -/
inductive Chomping where
  /-- All are dropped. -/
  | strip
  /-- One is kept. -/
  | clip
  /-- All are kept. -/
  | keep
deriving DecidableEq, Repr

def chompingOf? (c : Char) : Option Chomping :=
  if c = '+' then some .keep else if c = '-' then some .strip else none

/-- The indentation that a digit asks for. -/
def incrementOf? (c : Char) : Option Nat :=
  if c.isDigit then some (c.toNat - '0'.toNat) else none

/-- Chomping and indentation in the first line of a block scalar. -/
def scanBlockHeader (cursor : Cursor) : Except Fault ((Chomping × Option Nat) × Cursor) := do
  let sign (cursor : Cursor) : Option Chomping × Cursor :=
    match cursor.peek.bind chompingOf? with
    | some chomping => (some chomping, cursor.step)
    | none => (none, cursor)
  let digit (cursor : Cursor) : Option Nat × Cursor :=
    match cursor.peek.bind incrementOf? with
    | some increment => (some increment, cursor.step)
    | none => (none, cursor)
  let (first, cursor) := sign cursor
  let (increment, cursor) := digit cursor
  let (second, cursor) := if first.isNone && increment.isSome then sign cursor else (none, cursor)
  if increment = some 0 then malformed
  else if !isSpaceOrEnd cursor.peek then malformed
  else .ok (((first.or second).getD .clip, increment), cursor)

/-- The place after blanks, a comment and the end of the line. -/
def scanIgnoredLine (cursor : Cursor) : Except Fault Cursor :=
  let cursor := cursor.skipSpaces.skipComment
  if !isLineEnd cursor.peek then malformed
  else .ok ((cursor.takeBreak?.map Prod.snd).getD cursor)

def skipSpacesTo (indent : Int) (cursor : Cursor) : Cursor :=
  let spaces := (cursor.rest.takeWhile (· == ' ')).length
  cursor.skip (min spaces (indent - Int.ofNat cursor.column).toNat)

/-- The breaks of empty lines in a block scalar with a known indentation. -/
def scanBlockBreaks (indent : Int) : Nat → Cursor → List Char × Cursor
  | 0, cursor => ([], cursor)
  | count + 1, cursor =>
      let cursor := skipSpacesTo indent cursor
      match cursor.takeBreak? with
      | none => ([], cursor)
      | some (lineBreak, cursor) =>
          let (breaks, cursor) := scanBlockBreaks indent count cursor
          (lineBreak :: breaks, cursor)

/-- The breaks of empty lines at the start of a block scalar, and the greatest
column that spaces reach. -/
def scanBlockStart (widest : Nat) : Nat → Cursor → List Char × Nat × Cursor
  | 0, cursor => ([], widest, cursor)
  | count + 1, cursor =>
      let cursor := cursor.skipSpaces
      let widest := max widest cursor.column
      match cursor.takeBreak? with
      | none => ([], widest, cursor)
      | some (lineBreak, cursor) =>
          let (breaks, widest, cursor) := scanBlockStart widest count cursor
          (lineBreak :: breaks, widest, cursor)

/-- The lines of a block scalar after the breaks of empty lines `breaks`. -/
def scanBlockLines (folded : Bool) (chomping : Chomping) (indent : Int) (lineBreak breaks : List Char) :
    Nat → Cursor → List Char × Cursor
  | 0, cursor => ([], cursor)
  | count + 1, cursor =>
      if Int.ofNat cursor.column = indent && cursor.peek.isSome then
        let startsBare := !(cursor.peek.any isSpaceOrTab)
        let (line, cursor) := cursor.span fun c => !isBreak c
        let (ending, cursor) :=
          match cursor.takeBreak? with
          | some (c, cursor) => ([c], cursor)
          | none => ([], cursor)
        let (empty, cursor) := scanBlockBreaks indent cursor.bound cursor
        let goesOn := Int.ofNat cursor.column = indent && cursor.peek.isSome
        let glue :=
          if !goesOn then []
          else if folded && ending == ['\n'] && startsBare && !(cursor.peek.any isSpaceOrTab) then
            if empty.isEmpty then [' '] else []
          else ending
        let (more, cursor) := scanBlockLines folded chomping indent ending empty count cursor
        (breaks ++ line ++ glue ++ more, cursor)
      else
        match chomping with
        | .strip => ([], cursor)
        | .clip => (lineBreak, cursor)
        | .keep => (lineBreak ++ breaks, cursor)

/-- A block scalar, from its opening mark on, inside a block of the given
indentation. -/
def scanBlock (folded : Bool) (indent : Int) (cursor : Cursor) : Except Fault (String × Cursor) := do
  let ((chomping, increment), cursor) ← scanBlockHeader cursor.step
  let cursor ← scanIgnoredLine cursor
  let least := max (indent + 1) 1
  let (breaks, indent, cursor) :=
    match increment with
    | some increment =>
        let indent := least + Int.ofNat increment - 1
        let (breaks, cursor) := scanBlockBreaks indent cursor.bound cursor
        (breaks, indent, cursor)
    | none =>
        let (breaks, widest, cursor) := scanBlockStart 0 cursor.bound cursor
        (breaks, max least (Int.ofNat widest), cursor)
  let (cs, cursor) := scanBlockLines folded chomping indent [] breaks cursor.bound cursor
  return (String.ofList cs, cursor)

end AddonBindings.Yaml
