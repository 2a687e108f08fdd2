import AddonBindings.Boundary.Expression
import AddonBindings.Go.Token

/-!
Contract: the parts of a Go file that binding looks at.

Owns:
- the syntax of function declarations down to the text of their types;
- the children of a file: declarations, statements, marks and comments;
- the shape of a type.

Does not own: reading a file into these parts, which is in
`AddonBindings.Go.SourceFile`.
-/

namespace AddonBindings.Go

structure TypeSyntax where
  tokens : List Token
deriving DecidableEq, Repr

/-- The source text of a type, with the blanks and comments inside it. -/
def TypeSyntax.text (type : TypeSyntax) : String :=
  sliceText type.tokens

/-- The shape of a type.  Blanks and comments inside a pointer to a name of a
package do not count. -/
def TypeSyntax.expression (type : TypeSyntax) : TypeExpression :=
  match type.tokens with
  | [name] => if name.lexeme.kind = .name then .identifier name.lexeme.text else .other type.text
  | [star, package, point, name] =>
      if star.isFixed "*" && package.lexeme.kind = .name && point.isFixed "." &&
          name.lexeme.kind = .name then
        .pointer package.lexeme.text name.lexeme.text
      else .other type.text
  | _ => .other type.text

/-- What stands in a list of parameters or results. -/
inductive ParameterItem where
  /-- Any number of names that share a type. -/
  | declared (names : List String) (type : TypeSyntax)
  /-- A parameter that takes any number of arguments. -/
  | variadic (name : Option String) (type : TypeSyntax)
  | comment (text : String)
deriving DecidableEq, Repr

inductive ResultSyntax where
  | absent
  /-- A type without brackets around it. -/
  | single (type : TypeSyntax)
  /-- A list between brackets. -/
  | listed (items : List ParameterItem)
deriving DecidableEq, Repr

structure FunctionDeclaration where
  name : String
  parameters : List ParameterItem
  result : ResultSyntax
deriving DecidableEq, Repr

structure Comment where
  text : String
  start : Position
  stop : Position
deriving DecidableEq, Repr

/-- What a declaration or statement of a file is. -/
inductive NodeContent where
  | function (declaration : FunctionDeclaration)
  | other
deriving DecidableEq, Repr

/-- A declaration or statement of a file with its place. -/
structure Node where
  content : NodeContent
  start : Position
  stop : Position
deriving DecidableEq, Repr

inductive RootChild where
  | comment (content : Comment)
  /-- A mark between two declarations. -/
  | mark (start stop : Position)
  | node (content : Node)
deriving DecidableEq, Repr

namespace RootChild

def start : RootChild → Position
  | .comment content => content.start
  | .mark start _ => start
  | .node content => content.start

def stop : RootChild → Position
  | .comment content => content.stop
  | .mark _ stop => stop
  | .node content => content.stop

end RootChild

end AddonBindings.Go
