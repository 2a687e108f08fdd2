import AddonBindings.Go.Grammar
import AddonBindings.Go.Syntax

/-!
Contract: lists of parameters and results.

Owns:
- the entries between the commas of a list;
- the grouping of names that share the type of a later entry.

Does not own: the types themselves, which are recognised by
`AddonBindings.Go.Grammar`.
-/

namespace AddonBindings.Go

/-- What stands between two commas of a list. -/
inductive ParameterEntry where
  /-- A single name: a type, or a name that shares the type of a later entry. -/
  | lone (name : Token)
  /-- A name and its type. -/
  | named (name : Token) (type : TypeSyntax)
  /-- A type that is no single name. -/
  | unnamed (type : TypeSyntax)
  | variadic (name : Option Token) (type : TypeSyntax)
  | comment (text : String)
deriving DecidableEq, Repr

def Token.name (token : Token) : String := token.lexeme.text

/-- The number of names that can share one type. -/
def sharingLimit : Nat := 9

def asTypes (names : List Token) : List ParameterItem :=
  names.map fun name => .declared [] ⟨[name]⟩

/-- The items of a list.  Lone names share the type of the next named entry, up to
the limit; names further away, or without a named entry directly after them, are
types. -/
def grouped (pending : List Token) : List ParameterEntry → List ParameterItem
  | [] => asTypes pending
  | .lone name :: rest => grouped (pending ++ [name]) rest
  | .named name type :: rest =>
      let names := pending ++ [name]
      let far := names.length - sharingLimit
      asTypes (names.take far) ++ .declared ((names.drop far).map Token.name) type :: grouped [] rest
  | .unnamed type :: rest => asTypes pending ++ .declared [] type :: grouped [] rest
  | .variadic name type :: rest =>
      asTypes pending ++ .variadic (name.map Token.name) type :: grouped [] rest
  | .comment text :: rest => .comment text :: grouped pending rest

def readType (place : Place) (tokens : List Token) : Option (TypeSyntax × List Token) :=
  (Rule.type.recognise place tokens).map fun rest => (⟨consumed tokens rest⟩, rest)

def readVariadic (tokens : List Token) : Option (ParameterEntry × List Token) :=
  let typed (name : Option Token) (rest : List Token) : Option (ParameterEntry × List Token) :=
    (readType .enclosed rest).map fun (type, rest) => (.variadic name type, rest)
  match tokens with
  | [] => none
  | [_] => none
  | first :: second :: rest =>
      if first.isFixed "..." then typed none (second :: rest)
      else if first.lexeme.kind = .name && second.isFixed "..." then typed (some first) rest
      else none

def readNamed : List Token → Option (ParameterEntry × List Token)
  | [] => none
  | first :: rest =>
      if first.lexeme.kind = .name then
        (readType .enclosed rest).map fun (type, rest) => (.named first type, rest)
      else none

/-- A type at the start of the tokens; a single name is kept apart. -/
def readUnnamed (tokens : List Token) : Option (ParameterEntry × List Token) :=
  (readType .enclosed tokens).map fun (type, rest) =>
    match type.tokens with
    | [name] => (.lone name, rest)
    | _ => (.unnamed type, rest)

def readEntry (tokens : List Token) : Option (ParameterEntry × List Token) :=
  (readVariadic tokens).or ((readNamed tokens).or (readUnnamed tokens))

def leadingComments (tokens : List Token) : List ParameterEntry :=
  (tokens.head?.map Token.comments).getD [] |>.map fun comment => .comment comment.text

/-- The entries up to the closing bracket, at most `count` of them. -/
def readEntries : Nat → List Token → Option (List ParameterEntry × List Token)
  | 0, _ => none
  | count + 1, tokens =>
      match tokens with
      | [] => none
      | first :: rest =>
          if first.isFixed ")" then some (leadingComments tokens, rest)
          else do
            let (entry, after) ← readEntry tokens
            let front := leadingComments tokens ++ [entry]
            match after with
            | [] => none
            | mark :: rest =>
                if mark.isFixed "," then
                  let (entries, rest) ← readEntries count rest
                  return (front ++ leadingComments after ++ entries, rest)
                else if mark.isFixed ")" then return (front ++ leadingComments after, rest)
                else none

/-- A list between round brackets at the start of the tokens.  A comma alone is an
empty list. -/
def readParameters (tokens : List Token) : Option (List ParameterItem × List Token) :=
  match tokens with
  | [] => none
  | opening :: rest =>
      if !opening.isFixed "(" then none
      else
        match rest with
        | comma :: closing :: after =>
            if comma.isFixed "," && closing.isFixed ")" then
              some (grouped [] (leadingComments rest ++ leadingComments (closing :: after)), after)
            else (readEntries rest.length rest).map fun (entries, rest) => (grouped [] entries, rest)
        | _ => (readEntries rest.length rest).map fun (entries, rest) => (grouped [] entries, rest)

end AddonBindings.Go
