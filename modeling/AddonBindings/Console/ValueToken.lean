import AddonBindings.Text.IdentifierCharacter
import AddonBindings.Text.Lines

/-!
Contract: the tokens of a written value.

Owns:
- the spelling of numbers, in which single underscores may stand between digits;
- quoted texts with their escapes, over one line or between triple marks;
- comments, and lines that go on after a backslash.

Does not own: which tokens make up a value, which is in `AddonBindings.Console.Value`.

No token holds a square bracket, since markup has none inside of a tag.
-/

namespace AddonBindings.Console.Value

inductive Token where
  | number (isImaginary : Bool)
  | text (isBytes : Bool)
  | word (name : String)
  /-- Three points. -/
  | dots
  | mark (c : Char)
  | lineEnd
  /-- Blanks in front of a line that is not empty. -/
  | indent
deriving DecidableEq, Repr

/-! ## Numbers and words -/

/-- Digits with at most one underscore in front of each but the first. -/
def areDigits (isDigit : Char → Bool) : List Char → Bool
  | [] => false
  | [c] => isDigit c
  | c :: '_' :: rest => isDigit c && areDigits isDigit rest
  | c :: rest => isDigit c && areDigits isDigit rest

/-- The digits of a base that a letter after a zero announces. -/
def digitsOf? (mark : Char) : Option (Char → Bool) :=
  if mark = 'x' ∨ mark = 'X' then
    some fun c => c.isDigit || ('a' ≤ c && c ≤ 'f') || ('A' ≤ c && c ≤ 'F')
  else if mark = 'o' ∨ mark = 'O' then some fun c => '0' ≤ c && c ≤ '7'
  else if mark = 'b' ∨ mark = 'B' then some fun c => c == '0' || c == '1'
  else none

/-- Digits with a point in them, before them or after them. -/
def isPointed (cs : List Char) : Bool :=
  let whole := cs.takeWhile (· != '.')
  let fraction := (cs.dropWhile (· != '.')).tail
  (whole.isEmpty || areDigits Char.isDigit whole) &&
    (fraction.isEmpty || areDigits Char.isDigit fraction) && !(whole.isEmpty && fraction.isEmpty)

def isExponent : List Char → Bool
  | mark :: sign :: rest =>
      (mark == 'e' || mark == 'E') &&
        areDigits Char.isDigit (if sign = '+' ∨ sign = '-' then rest else sign :: rest)
  | _ => false

/-- A decimal number with a point or an exponent. -/
def isDecimal (cs : List Char) : Bool :=
  let front := cs.takeWhile fun c => c != 'e' && c != 'E'
  let exponent := cs.drop front.length
  if exponent.isEmpty then front.contains '.' && isPointed front
  else
    isExponent exponent &&
      (if front.contains '.' then isPointed front else areDigits Char.isDigit front)

/-- A whole number.  Only zeros may follow a zero in front. -/
def isWhole : List Char → Bool
  | '0' :: mark :: rest =>
      match digitsOf? mark with
      | some isDigit => areDigits isDigit (if rest.head? = some '_' then rest.tail else rest)
      | none => areDigits (· == '0') ('0' :: mark :: rest)
  | cs => areDigits Char.isDigit cs

/-- The number that a run of characters spells; the flag says that it is imaginary. -/
def number? (run : List Char) : Option Token :=
  if run.getLast? = some 'j' ∨ run.getLast? = some 'J' then
    if isDecimal run.dropLast || areDigits Char.isDigit run.dropLast then some (.number true) else none
  else if isDecimal run || isWhole run then some (.number false)
  else none

/-- The token that a run of letters, digits, underscores and points spells. -/
def runToken? (run : List Char) : Option Token :=
  match run with
  | ['.', '.', '.'] => some .dots
  | c :: _ =>
      if c.isDigit || c = '.' then number? run
      else if run.contains '.' then none
      else some (.word (String.ofList run))
  | [] => none

/-- The run goes on with a sign, which belongs to an exponent. -/
def takesSign (run : List Char) : Bool :=
  let isMark (c : Char) : Bool := c == 'x' || c == 'X'
  run.head?.any (fun c => c.isDigit || c == '.') && run.getLast?.any (fun c => c == 'e' || c == 'E') &&
    !run.tail.head?.any isMark

/-! ## Texts -/

structure TextForm where
  isBytes : Bool
  isRaw : Bool
  mark : Char
  isTriple : Bool := false
deriving DecidableEq, Repr

/-- The form that a run of letters in front of a quotation mark announces. -/
def textForm? (run : List Char) (mark : Char) : Option TextForm :=
  match String.ofList (run.map Char.toLower) with
  | "" | "u" => some ⟨false, false, mark, false⟩
  | "r" => some ⟨false, true, mark, false⟩
  | "b" => some ⟨true, false, mark, false⟩
  | "br" | "rb" => some ⟨true, true, mark, false⟩
  | _ => none

def isQuotationMark (c : Char) : Bool := c == '\'' || c == '"'

/-- The number of hexadecimal digits in an escape.  Only characters of texts have
escapes of more than two. -/
def TextForm.escapeLength? (form : TextForm) (c : Char) : Option Nat :=
  if c = 'x' then some 2
  else if form.isBytes then none
  else if c = 'u' then some 4
  else if c = 'U' then some 8
  else none

/-! ## Reading -/

inductive Reading where
  /-- At the start of a line; the flag says that blanks have been read. -/
  | lineStart (indented : Bool)
  | between
  /-- In a run of letters, digits, underscores and points. -/
  | run (characters : List Char)
  | comment
  /-- After a backslash between tokens; the flag says that the line has no token yet. -/
  | continued (atStart : Bool)
  /-- After the quotation mark that opens a text, or after two of them. -/
  | opened (form : TextForm) (again : Bool)
  /-- In a text, after some quotation marks in succession. -/
  | text (form : TextForm) (marks : Nat)
  /-- After a backslash in a text. -/
  | escape (form : TextForm)
  /-- In an escape that has `left` more digits. -/
  | digits (form : TextForm) (left value : Nat)
deriving DecidableEq, Repr

/-- The tokens that a character completes, and where reading stands after it. -/
abbrev Step := Option (List Token × Reading)

def inBetween (c : Char) : Step :=
  if c = '\n' then some ([.lineEnd], .lineStart false)
  else if c = ' ' ∨ c = '\t' ∨ c = '\x0c' then some ([], .between)
  else if c = '#' then some ([], .comment)
  else if c = '\\' then some ([], .continued false)
  else if isQuotationMark c then (textForm? [] c).map fun form => ([], .opened form false)
  else if Text.isAsciiNameRest c ∨ c = '.' then some ([], .run [c])
  else if "()\x7b\x7d,:+-".toList.contains c then some ([.mark c], .between)
  else none

def atLineStart (indented : Bool) (c : Char) : Step :=
  if c = ' ' ∨ c = '\t' then some ([], .lineStart true)
  else if c = '\x0c' then some ([], .lineStart false)
  else if c = '\n' then some ([], .lineStart false)
  else if c = '#' then some ([], .comment)
  else if c = '\\' then some ([], .continued true)
  else (inBetween c).map fun (tokens, reading) =>
    (if indented then .indent :: tokens else tokens, reading)

def inRun (run : List Char) (c : Char) : Step :=
  if Text.isAsciiNameRest c ∨ c = '.' ∨ ((c = '+' ∨ c = '-') ∧ takesSign run) then
    some ([], .run (run ++ [c]))
  else if isQuotationMark c then (textForm? run c).map fun form => ([], .opened form false)
  else do
    let token ← runToken? run
    let (tokens, reading) ← inBetween c
    return (token :: tokens, reading)

def inText (form : TextForm) (marks : Nat) (c : Char) : Step :=
  if c = form.mark then
    if !form.isTriple || marks = 2 then some ([.text form.isBytes], .between)
    else some ([], .text form (marks + 1))
  else if c = '\\' then some ([], .escape form)
  else if (c = '\n' ∧ !form.isTriple) ∨ (form.isBytes ∧ 128 ≤ c.toNat) then none
  else some ([], .text form 0)

/-- An escape by the name of a character is not taken. -/
def inEscape (form : TextForm) (c : Char) : Step :=
  if form.isBytes ∧ 128 ≤ c.toNat then none
  else if form.isRaw then some ([], .text form 0)
  else
    match form.escapeLength? c with
    | some length => some ([], .digits form length 0)
    | none => if c = 'N' ∧ !form.isBytes then none else some ([], .text form 0)

def inDigits (form : TextForm) (left value : Nat) (c : Char) : Step := do
  let isDigit ← digitsOf? 'x'
  let digit ← if isDigit c then some (("0123456789abcdef".toList.idxOf c.toLower)) else none
  let value := value * 16 + digit
  if 1 < left then return ([], .digits form (left - 1) value)
  else if value ≤ 0x10FFFF then return ([], .text form 0)
  else none

def Reading.step : Reading → Char → Step
  | lineStart indented, c => atLineStart indented c
  | between, c => inBetween c
  | run characters, c => inRun characters c
  | comment, c => if c = '\n' then inBetween c else some ([], .comment)
  | continued atStart, c =>
      if c = '\n' then some ([], if atStart then .lineStart false else .between) else none
  | opened form false, c =>
      if c = form.mark then some ([], .opened form true) else inText form 0 c
  | opened form true, c =>
      if c = form.mark then some ([], .text { form with isTriple := true } 0)
      else (inBetween c).map fun (tokens, reading) => (.text form.isBytes :: tokens, reading)
  | text form marks, c => inText form marks c
  | escape form, c => inEscape form c
  | digits form left value, c => inDigits form left value c

def Reading.atEnd : Reading → Option (List Token)
  | lineStart _ | between | comment => some []
  | run characters => (runToken? characters).map fun token => [token]
  | opened form true => some [.text form.isBytes]
  | _ => none

def Reading.tokens? (reading : Reading) : List Char → Option (List Token)
  | [] => reading.atEnd
  | c :: rest => do
      let (tokens, reading) ← reading.step c
      return tokens ++ (← reading.tokens? rest)

/-- The tokens of a text, in which every kind of line end counts as a line feed. -/
def tokens? (cs : List Char) : Option (List Token) :=
  if cs.contains '\x00' then none else (Reading.lineStart false).tokens? (Text.foldNewlines cs)

end AddonBindings.Console.Value
