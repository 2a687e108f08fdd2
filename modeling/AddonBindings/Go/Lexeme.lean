import AddonBindings.Go.Literal
import AddonBindings.Go.Position
import AddonBindings.Text.IdentifierCharacter

/-!
Contract: a Go source as a sequence of lexemes.

Owns:
- the kinds of lexemes, with blanks and comments among them;
- cutting a text into lexemes, each the longest at its place;
- the law that the lexemes joined give the text back.

Does not own: which sequences of lexemes are programs, which is in
`AddonBindings.Go.Grammar`.
-/

namespace AddonBindings.Go

inductive LexemeKind where
  /-- A run of blanks. -/
  | blank
  | comment
  | name
  /-- A reserved word or a mark, which has only one spelling. -/
  | fixed
  | number
  | rune
  | text
  /-- A character that starts no lexeme. -/
  | unknown
  /-- The end of the source, which has no characters. -/
  | finish
deriving DecidableEq, Repr

structure Lexeme where
  kind : LexemeKind
  text : String
  start : Position
  stop : Position
deriving DecidableEq, Repr

def isBlank (c : Char) : Bool :=
  c == ' ' || (9 ≤ c.val && c.val ≤ 13)

def reservedWords : List String :=
  [ "break", "case", "chan", "const", "continue", "default", "defer", "else", "fallthrough",
    "for", "func", "go", "goto", "if", "import", "interface", "map", "package", "range",
    "return", "select", "struct", "switch", "type", "var" ]

/-- The marks, longer ones before their beginnings. -/
def marks : List String :=
  [ "<<=", ">>=", "&^=", "...",
    "&&", "||", "<-", "++", "--", "==", "<=", ">=", "!=", ":=", "+=", "-=", "*=", "/=", "%=",
    "&=", "|=", "^=", "<<", ">>", "&^",
    "+", "-", "*", "/", "%", "&", "|", "^", "<", ">", "=", "!", "(", ")", "[", "]",
    "\x7b", "\x7d", ",", ";", ".", ":", "~" ]

/-- The characters after a line comment; the line feed is not part of it. -/
def afterLineComment (cs : List Char) : List Char :=
  cs.dropWhile (· ≠ '\n')

def afterBlockComment? : List Char → Option (List Char)
  | '*' :: '/' :: rest => some rest
  | _ :: rest => afterBlockComment? rest
  | [] => none

/-- What follows the longest mark at the start. -/
def afterMark? (cs : List Char) : Option (List Char) :=
  (marks.find? fun mark => mark.toList.isPrefixOf cs).map fun mark => cs.drop mark.length

def nameKind (text : String) : LexemeKind :=
  if text ∈ reservedWords then .fixed else .name

/-- The kind of the longest lexeme that starts with `first`, and what follows it. -/
def cut (first : Char) (rest : List Char) : LexemeKind × List Char :=
  let orUnknown (kind : LexemeKind) (found : Option (List Char)) : LexemeKind × List Char :=
    match found with
    | some after => (kind, after)
    | none => (.unknown, rest)
  if isBlank first then (.blank, rest.dropWhile isBlank)
  else if Text.isIdentifierStart first then
    (nameKind (String.ofList (first :: rest.takeWhile Text.isIdentifierRest)),
      rest.dropWhile Text.isIdentifierRest)
  else if first = '"' then orUnknown .text (Literal.afterInterpreted? rest)
  else if first = '`' then orUnknown .text (Literal.afterRaw? rest)
  else if first = '\'' then orUnknown .rune (Literal.afterRune? rest)
  else
    match first, rest with
    | '/', '/' :: _ => (.comment, afterLineComment rest)
    | '/', '*' :: inside => orUnknown .comment (afterBlockComment? inside)
    | _, _ =>
        match Literal.afterNumber? (first :: rest) with
        | some after => (.number, after)
        | none => orUnknown .fixed (afterMark? (first :: rest))

/-- The lexemes of characters that start at `position`. -/
def lexemesFrom (position : Position) : List Char → List Lexeme
  | [] => []
  | first :: rest =>
      let (kind, after) := cut first rest
      let count := rest.length - after.length
      let taken := first :: rest.take count
      let next := position.advance taken
      ⟨kind, String.ofList taken, position, next⟩ :: lexemesFrom next (rest.drop count)
termination_by cs => cs.length
decreasing_by simp only [List.length_drop, List.length_cons]; omega

/-- The lexemes of a source.  One byte order mark at the very start is a blank. -/
def lexemes (source : String) : List Lexeme :=
  match source.toList with
  | '\uFEFF' :: rest =>
      let next := Position.origin.after '\uFEFF'
      ⟨.blank, "\uFEFF", .origin, next⟩ :: lexemesFrom next rest
  | cs => lexemesFrom .origin cs

/-- No character is lost: the texts of the lexemes joined are the characters. -/
theorem flatMap_text_lexemesFrom (position : Position) (cs : List Char) :
    (lexemesFrom position cs).flatMap (fun lexeme => lexeme.text.toList) = cs := by
  fun_induction lexemesFrom position cs with
  | case1 => rfl
  | case2 position first rest kind after _ count taken next inductionHypothesis =>
      simp only [List.flatMap_cons, String.toList_ofList, inductionHypothesis, taken]
      simp

end AddonBindings.Go
