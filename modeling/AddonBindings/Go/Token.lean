import AddonBindings.Go.Lexeme

/-!
Contract: the lexemes that matter to the grammar, each with what stands before it.

Owns:
- tokens with their lead of blanks and comments;
- the comments and line feeds of a lead;
- the text of a run of tokens as it stands in the source.

Does not own: cutting the source, which is in `AddonBindings.Go.Lexeme`.
-/

namespace AddonBindings.Go

/-- A lexeme that is neither blank nor comment, and the blanks and comments before
it.  The last token of a source is its end. -/
structure Token where
  lead : List Lexeme
  lexeme : Lexeme
deriving DecidableEq, Repr

/-- Attach to every other lexeme the blanks and comments before it, starting with
`lead` before the first. -/
def tokensAfter (lead : List Lexeme) (stop : Position) : List Lexeme → List Token
  | [] => [⟨lead, ⟨.finish, "", stop, stop⟩⟩]
  | lexeme :: rest =>
      if lexeme.kind = .blank ∨ lexeme.kind = .comment then
        tokensAfter (lead ++ [lexeme]) lexeme.stop rest
      else ⟨lead, lexeme⟩ :: tokensAfter [] lexeme.stop rest

def tokens (source : String) : List Token :=
  tokensAfter [] .origin (lexemes source)

namespace Token

def comments (token : Token) : List Lexeme :=
  token.lead.filter fun lexeme => lexeme.kind = .comment

/-- A line feed stands between the token before and this one, outside comments. -/
def startsLine (token : Token) : Bool :=
  token.lead.any fun lexeme => lexeme.kind = .blank && lexeme.text.toList.contains '\n'

def isFixed (token : Token) (text : String) : Bool :=
  token.lexeme.kind = .fixed && token.lexeme.text == text

def isFinish (token : Token) : Bool :=
  token.lexeme.kind = .finish

/-- The token with its lead, as they stand in the source. -/
def fullText (token : Token) : String :=
  String.join (token.lead.map Lexeme.text) ++ token.lexeme.text

end Token

/-- The source text from the start of the first token to the end of the last. -/
def sliceText : List Token → String
  | [] => ""
  | first :: rest => first.lexeme.text ++ String.join (rest.map Token.fullText)

/-- The tokens of `before` up to where `rest` begins. -/
def consumed (before rest : List Token) : List Token :=
  before.take (before.length - rest.length)

end AddonBindings.Go
