/-!
Contract: reading a YAML text from front to back.

Owns:
- the classes of characters that the format speaks of;
- a cursor with its line and column, and moving it over characters, blanks,
  comments and line breaks.

Does not own: what the characters mean, which is in `AddonBindings.Yaml.Scalar`
and `AddonBindings.Yaml.Tokens`.

Carriage returns are folded into line feeds before a text is read.
-/

namespace AddonBindings.Yaml

/-- A character that ends a line. -/
def isBreak (c : Char) : Bool :=
  c == '\n' || c.val == 0x85 || c.val == 0x2028 || c.val == 0x2029

def isSpaceOrTab (c : Char) : Bool := c == ' ' || c == '\t'

/-- A character that a document may hold. -/
def isAllowed (c : Char) : Bool :=
  c == '\t' || c == '\n' || c == '\r' || (0x20 ≤ c.val && c.val ≤ 0x7E) || c.val == 0x85 ||
    (0xA0 ≤ c.val && c.val ≤ 0xFFFD) || 0x10000 ≤ c.val

/-- A character of the names of anchors, directives and handles. -/
def isWordChar (c : Char) : Bool := c.isAlphanum || c == '-' || c == '_'

/-- There is no next character, or it is one of the class. -/
def endOr (isMember : Char → Bool) (next : Option Char) : Bool :=
  match next with
  | none => true
  | some c => isMember c

def isLineEnd (next : Option Char) : Bool := endOr isBreak next

def isSpaceOrEnd (next : Option Char) : Bool := endOr (fun c => c == ' ' || isBreak c) next

def isGap (next : Option Char) : Bool := endOr (fun c => isSpaceOrTab c || isBreak c) next

/-- A place in a text: what is left of it, the number of characters before it, and
its line and column. -/
structure Cursor where
  rest : List Char
  index : Nat
  line : Nat
  column : Nat
deriving DecidableEq, Repr

namespace Cursor

def start (cs : List Char) : Cursor := ⟨cs, 0, 0, 0⟩

/-- The next character. -/
def peek (cursor : Cursor) : Option Char := cursor.rest.head?

/-- The character `count` places further on. -/
def peekAt (cursor : Cursor) (count : Nat) : Option Char := cursor.rest[count]?

/-- The next character is `c`. -/
def sees (cursor : Cursor) (c : Char) : Bool := cursor.peek == some c

/-- One character further.  A byte order mark takes no column. -/
def step (cursor : Cursor) : Cursor :=
  match cursor.rest with
  | [] => cursor
  | c :: rest =>
      if isBreak c then ⟨rest, cursor.index + 1, cursor.line + 1, 0⟩
      else if c.val = 0xFEFF then ⟨rest, cursor.index + 1, cursor.line, cursor.column⟩
      else ⟨rest, cursor.index + 1, cursor.line, cursor.column + 1⟩

/-- Several characters further. -/
def skip (cursor : Cursor) : Nat → Cursor
  | 0 => cursor
  | count + 1 => cursor.step.skip count

/-- The characters of a class at the cursor, and the place after them. -/
def span (cursor : Cursor) (isMember : Char → Bool) : List Char × Cursor :=
  let taken := cursor.rest.takeWhile isMember
  (taken, cursor.skip taken.length)

/-- The place after the characters of a class. -/
def skipWhile (cursor : Cursor) (isMember : Char → Bool) : Cursor :=
  (cursor.span isMember).2

def skipSpaces (cursor : Cursor) : Cursor := cursor.skipWhile (· == ' ')

/-- The place after a comment, if there is one. -/
def skipComment (cursor : Cursor) : Cursor :=
  if cursor.sees '#' then cursor.skipWhile fun c => !isBreak c else cursor

/-- The line break at the cursor, and the place after it.  The next-line control
counts as a line feed. -/
def takeBreak? (cursor : Cursor) : Option (Char × Cursor) :=
  match cursor.peek with
  | some c =>
      if isBreak c then some (if c.val = 0x85 then '\n' else c, cursor.step) else none
  | none => none

/-- Three equal marks with a gap after them. -/
def seesTriple (cursor : Cursor) (mark : Char) : Bool :=
  cursor.peekAt 0 == some mark && cursor.peekAt 1 == some mark && cursor.peekAt 2 == some mark &&
    isGap (cursor.peekAt 3)

def seesDocumentMark (cursor : Cursor) : Bool :=
  cursor.seesTriple '-' || cursor.seesTriple '.'

end Cursor

end AddonBindings.Yaml
