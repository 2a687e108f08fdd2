import AddonBindings.Go.Token

/-!
Contract: patterns of tokens.

Owns:
- a language of patterns with ordered choice, and with named rules as leaves;
- the places of a pattern, which say whether a line feed may end the construct
  and whether a brace may open a literal;
- recognition: what is left of the tokens after the pattern, given how rules are
  recognised.

Does not own: the rules of a language, which are in `AddonBindings.Go.Grammar`.

A line feed is a blank except where the construct at hand may end.  So each part
of a pattern is matched at a place: a part that something still has to follow is
matched where no line feed can end the construct, and a part that may be absent
is absent where a line feed does.
-/

namespace AddonBindings.Go

structure Place where
  /-- A line feed ends the construct if it is complete. -/
  mayEnd : Bool
  /-- A brace after a type name opens a literal. -/
  braces : Bool
deriving DecidableEq, Repr

namespace Place

/-- The end of a statement, a declaration or a list item. -/
def tail : Place := ⟨true, true⟩

/-- Inside brackets. -/
def enclosed : Place := ⟨false, true⟩

/-- Between a keyword and the brace that opens its block. -/
def header : Place := ⟨false, false⟩

/-- The same place for a part that something has to follow. -/
def inner (place : Place) : Place := ⟨false, place.braces⟩

end Place

inductive Pattern (Rule : Type) where
  /-- No token. -/
  | nothing
  /-- A reserved word or a mark. -/
  | fixed (text : String)
  /-- Any lexeme of a kind. -/
  | anyOf (kind : LexemeKind)
  /-- A named rule. -/
  | rule (name : Rule)
  /-- One pattern and then the other. -/
  | next (first second : Pattern Rule)
  /-- One pattern, or the other where the first does not match. -/
  | either (first second : Pattern Rule)
  /-- The pattern, or nothing where it does not match. -/
  | maybe (part : Pattern Rule)
  /-- The pattern as often as it matches. -/
  | many (part : Pattern Rule)
  /-- The pattern, unless the construct has ended before it. -/
  | joined (part : Pattern Rule)
  /-- The pattern, where a brace may open a literal. -/
  | literal (part : Pattern Rule)
  /-- The pattern, at another place. -/
  | within (place : Place) (part : Pattern Rule)
  /-- The end of a list item: a line feed, a semicolon, or a closing bracket, which
  is left over. -/
  | terminator
deriving Repr

namespace Pattern

variable {Rule : Type}

def all : List (Pattern Rule) → Pattern Rule
  | [] => nothing
  | [only] => only
  | first :: rest => next first (all rest)

def choice (first : Pattern Rule) : List (Pattern Rule) → Pattern Rule
  | [] => first
  | second :: rest => either first (choice second rest)

/-- One or more of a pattern, with commas between them. -/
def list (part : Pattern Rule) : Pattern Rule :=
  next part (many (next (fixed ",") part))

def canEndBefore : Pattern Rule → Bool
  | nothing | maybe _ | many _ | joined _ => true
  | next first second => first.canEndBefore && second.canEndBefore
  | either first second => first.canEndBefore || second.canEndBefore
  | literal part | within _ part => part.canEndBefore
  | fixed _ | anyOf _ | rule _ | terminator => false

/-- The tokens start a new line where a line feed ends the construct. -/
def endsHere (place : Place) (tokens : List Token) : Bool :=
  place.mayEnd && tokens.head?.any Token.startsLine

/-- What is left after the first token, if it passes the test. -/
def single (test : Token → Bool) : List Token → Option (List Token)
  | [] => none
  | token :: rest => if test token then some rest else none

/-- What is left after as many steps as succeed, at most `count`. -/
def exhaust (step : List Token → Option (List Token)) : Nat → List Token → List Token
  | 0, tokens => tokens
  | count + 1, tokens =>
      match step tokens with
      | none => tokens
      | some rest => exhaust step count rest

def afterItem : List Token → Option (List Token)
  | [] => none
  | token :: rest =>
      if token.startsLine then some (token :: rest)
      else if token.isFixed ";" then some rest
      else if token.isFixed ")" || token.isFixed "\x7d" || token.isFinish then some (token :: rest)
      else none

/-- What is left of the tokens after the pattern; nothing if it does not match.
Rules are recognised by `call`. -/
def recognise (call : Rule → Place → List Token → Option (List Token)) :
    Pattern Rule → Place → List Token → Option (List Token)
  | nothing, _, tokens => some tokens
  | fixed text, _, tokens => single (·.isFixed text) tokens
  | anyOf kind, _, tokens => single (·.lexeme.kind = kind) tokens
  | rule name, place, tokens => call name place tokens
  | next first second, place, tokens =>
      match recognise call first (if second.canEndBefore then place else place.inner) tokens with
      | none => none
      | some rest => recognise call second place rest
  | either first second, place, tokens =>
      match recognise call first place tokens with
      | none => recognise call second place tokens
      | some rest => some rest
  | maybe part, place, tokens =>
      if endsHere place tokens then some tokens
      else
        match recognise call part place tokens with
        | none => some tokens
        | some rest => some rest
  | many part, place, tokens =>
      some (exhaust
        (fun left => if endsHere place left then none else recognise call part place left)
        tokens.length tokens)
  | joined part, place, tokens =>
      if endsHere place tokens then none else recognise call part place tokens
  | literal part, place, tokens =>
      if place.braces then recognise call part place tokens else none
  | within place part, _, tokens => recognise call part place tokens
  | terminator, _, tokens => afterItem tokens

end Pattern

end AddonBindings.Go
