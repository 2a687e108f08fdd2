import AddonBindings.Go.Parameters

/-!
Contract: Go files.

Owns:
- function declarations with their parameters and results;
- the children of a file in source order;
- where a text stops being a Go file.

Does not own: what is taken from a file, which is in
`AddonBindings.Export.Extraction`.

A file is read more freely than a compiler reads it: the package clause may be
missing, declarations may come in any order, and statements may stand beside
them.
-/

namespace AddonBindings.Go

/-- What follows a part that may be absent. -/
def afterOptional (rule : Rule) (tokens : List Token) : List Token :=
  if Pattern.endsHere .tail tokens then tokens
  else (rule.recognise .tail tokens).getD tokens

/-- The result part at the start of the tokens.  On a new line there is none. -/
def readResult (tokens : List Token) : ResultSyntax × List Token :=
  if Pattern.endsHere .tail tokens then (.absent, tokens)
  else
    match readParameters tokens with
    | some (items, rest) => (.listed items, rest)
    | none =>
        match readType .tail tokens with
        | some (type, rest) => (.single type, rest)
        | none => (.absent, tokens)

def readFunction : List Token → Option (FunctionDeclaration × List Token)
  | word :: name :: rest =>
      if word.isFixed "func" && name.lexeme.kind = .name then do
        let afterName := (Rule.typeParameters.recognise .enclosed rest).getD rest
        let (parameters, afterParameters) ← readParameters afterName
        let (result, afterResult) := readResult afterParameters
        return (⟨name.lexeme.text, parameters, result⟩, afterOptional .block afterResult)
      else none
  | _ => none

/-- What follows a declaration or statement that is no function declaration. -/
def afterOther (tokens : List Token) : Option (List Token) :=
  match tokens with
  | [] => none
  | first :: rest =>
      if first.isFixed ";" then some rest
      else
        ((Rule.packageClause.recognise .tail tokens).or
          (Rule.importDeclaration.recognise .tail tokens)).or
          ((Rule.methodDeclaration.recognise .tail tokens).or
            (Rule.statement.recognise .tail tokens))

def readContent (tokens : List Token) : Option (NodeContent × List Token) :=
  match readFunction tokens with
  | some (declaration, rest) => some (.function declaration, rest)
  | none => (afterOther tokens).map (.other, ·)

def readNode (tokens : List Token) : Option (Node × List Token) := do
  let (content, rest) ← readContent tokens
  let taken := consumed tokens rest
  let first ← taken.head?
  let last ← taken.getLast?
  return (⟨content, first.lexeme.start, last.lexeme.stop⟩, rest)

def commentChildren (token : Token) : List RootChild :=
  token.comments.map fun comment => .comment ⟨comment.text, comment.start, comment.stop⟩

def startOf (tokens : List Token) : Position :=
  match tokens with
  | [] => .origin
  | first :: _ => first.lexeme.start

/-- What ends a node: a line feed, a semicolon, which is a child by itself, or the
end of the source. -/
def readTerminator (tokens : List Token) : Option (List RootChild × List Token) :=
  match tokens with
  | [] => none
  | first :: rest =>
      if first.startsLine || first.isFinish then some ([], tokens)
      else if first.isFixed ";" then
        some (commentChildren first ++ [.mark first.lexeme.start first.lexeme.stop], rest)
      else none

/-- The children of the file, at most `count` nodes.  The fault is the place where
no node or end of a node can be read. -/
def readChildren : Nat → List Token → Except Position (List RootChild)
  | 0, tokens => .error (startOf tokens)
  | count + 1, tokens =>
      match tokens with
      | [] => .ok []
      | first :: _ =>
          let front := commentChildren first
          if first.isFinish then .ok front
          else
            match readNode tokens with
            | none => .error first.lexeme.start
            | some (node, after) =>
                match readTerminator after with
                | none => .error (startOf after)
                | some (marks, rest) =>
                    (readChildren count rest).map (front ++ .node node :: marks ++ ·)

/-- The children of a source, in order. -/
def readSource (source : String) : Except Position (List RootChild) :=
  let tokens := tokens source
  readChildren tokens.length tokens

end AddonBindings.Go
