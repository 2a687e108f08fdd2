import AddonBindings.Go.Pattern

/-!
Contract: the grammar of Go.

Owns: a rule for every construct, from names of types up to statements, and
recognition of a rule.

Does not own: the order of declarations in a file, which is in
`AddonBindings.Go.SourceFile`.  Nothing about meaning is checked: names need not
be declared and types need not fit.
-/

namespace AddonBindings.Go

/-- A construct of the grammar. -/
inductive Rule where
  -- types
  | typeName | typeArguments | typeList | type | arrayType | mapType | structType | structItem
  | interfaceType | interfaceItem | channelType | typeTerm | typeElement | typeParameter
  | typeParameters | signature | parameters | parameterItem | result
  -- expressions
  | expression | expressionList | unary | primary | operand | literalType | suffix | index
  | sliceEnd | arguments | moreArguments | conversion | literalValue | element | elementValue
  -- declarations
  | declaration | constantSpec | variableSpec | typeSpec | importDeclaration | importSpec
  | packageClause | methodDeclaration
  -- statements
  | block | statementItem | statement | simple | simpleTail | ifStatement | forStatement
  | switchStatement | typeCase | expressionCase | selectStatement | selectCase
deriving DecidableEq, Repr

namespace Rule

open Pattern

def aName : Pattern Rule := anyOf .name

def names : Pattern Rule := list aName

/-- One of several marks or words. -/
def oneOf (first : String) (others : List String) : Pattern Rule :=
  choice (fixed first) (others.map fixed)

def inParentheses (part : Pattern Rule) : Pattern Rule :=
  all [fixed "(", within .enclosed (all [part, fixed ")"])]

def inBrackets (part : Pattern Rule) : Pattern Rule :=
  all [fixed "[", within .enclosed (all [part, fixed "]"])]

def inBraces (part : Pattern Rule) : Pattern Rule :=
  all [fixed "\x7b", within .enclosed (all [part, fixed "\x7d"])]

/-- One or more of a pattern with commas between them, and perhaps one at the end. -/
def listWithComma (part : Pattern Rule) : Pattern Rule :=
  all [list part, maybe (fixed ",")]

/-- A list item at the end of which a line feed counts. -/
def item (part : Pattern Rule) : Pattern Rule :=
  next (within .tail part) terminator

/-- One specification, or several between round brackets. -/
def grouped (spec : Pattern Rule) : Pattern Rule :=
  choice (inParentheses (many (item spec))) [spec]

def assignment : Pattern Rule :=
  oneOf "=" [":=", "+=", "-=", "*=", "/=", "%=", "&=", "|=", "^=", "<<=", ">>=", "&^="]

/-- A sign that gives names or places their values one by one. -/
def binding : Pattern Rule := oneOf "=" [":="]

/-- A sign between two operands. -/
def binaryOperator : Pattern Rule :=
  oneOf "||" ["&&", "==", "!=", "<", "<=", ">", ">=", "+", "-", "|", "^", "*", "/", "%", "<<",
    ">>", "&", "&^"]

/-- A sign before an operand. -/
def unaryOperator : Pattern Rule := oneOf "+" ["-", "!", "^", "*", "&", "<-"]

def statements : Pattern Rule := many (rule statementItem)

/-- A clause that is taken when no other is. -/
def defaultCase : Pattern Rule := all [fixed "default", fixed ":", statements]

def headerStart : Pattern Rule := maybe (all [maybe (rule simple), fixed ";"])

def pattern : Rule → Pattern Rule
  -- types
  | typeName => all [aName, maybe (all [fixed ".", aName]), maybe (rule typeArguments)]
  | typeArguments => inBrackets (rule typeList)
  | typeList => listWithComma (rule type)
  | type =>
      choice (rule typeName)
        [ all [fixed "*", rule type],
          inParentheses (rule type),
          rule arrayType, rule mapType, rule structType, rule interfaceType, rule channelType,
          all [fixed "func", rule signature] ]
  | arrayType => all [inBrackets (maybe (rule expression)), rule type]
  | mapType => all [fixed "map", inBrackets (rule type), rule type]
  | structType => all [fixed "struct", inBraces (many (rule structItem))]
  | structItem =>
      choice (item (all [maybe (fixed "*"), rule typeName, maybe (anyOf .text)]))
        [item (all [names, rule type, maybe (anyOf .text)])]
  | interfaceType => all [fixed "interface", inBraces (many (rule interfaceItem))]
  | interfaceItem => choice (item (rule typeElement)) [item (all [aName, rule signature])]
  | channelType =>
      choice (all [fixed "chan", maybe (fixed "<-"), rule type])
        [all [fixed "<-", fixed "chan", rule type]]
  | typeTerm => all [maybe (fixed "~"), rule type]
  | typeElement => all [rule typeTerm, many (all [fixed "|", rule typeTerm])]
  | typeParameter => all [names, rule typeElement]
  | typeParameters => inBrackets (listWithComma (rule typeParameter))
  | signature => all [rule parameters, maybe (rule result)]
  | parameters => inParentheses (all [maybe (list (rule parameterItem)), maybe (fixed ",")])
  | parameterItem =>
      choice (all [maybe aName, fixed "...", rule type]) [all [aName, rule type], rule type]
  | result => choice (rule parameters) [rule type]
  -- expressions
  | expression => all [rule unary, many (all [binaryOperator, rule unary])]
  | expressionList => list (rule expression)
  | unary => choice (all [unaryOperator, rule unary]) [rule primary]
  | primary =>
      all
        [ choice (all [rule typeName, literal (joined (rule literalValue))]) [rule operand],
          many (rule suffix) ]
  | operand =>
      choice aName
        [ anyOf .number, anyOf .text, anyOf .rune,
          all [fixed "func", rule signature, rule block],
          inParentheses (rule expression),
          inParentheses (rule type),
          all [rule literalType, choice (rule literalValue) [rule conversion]] ]
  | literalType =>
      choice (all [fixed "[", fixed "...", fixed "]", rule type])
        [rule arrayType, rule mapType, rule structType, rule interfaceType, rule channelType]
  | suffix =>
      choice (all [fixed ".", choice aName [inParentheses (rule type)]])
        [rule index, rule arguments]
  | index =>
      all
        [ fixed "[",
          within .enclosed
            (choice (all [fixed ":", rule sliceEnd])
              [ all
                  [ rule expression,
                    choice (all [maybe (fixed ","), fixed "]"]) [all [fixed ":", rule sliceEnd]] ],
                all [rule typeList, fixed "]"] ]) ]
  | sliceEnd =>
      choice (fixed "]")
        [ all
            [ rule expression,
              choice (fixed "]") [all [fixed ":", rule expression, fixed "]"]] ] ]
  | arguments =>
      all
        [ fixed "(",
          within .enclosed
            (choice (fixed ")")
              [all [choice (rule expression) [rule type], rule moreArguments]]) ]
  | moreArguments =>
      all
        [ many (all [fixed ",", rule expression]), maybe (fixed "..."), maybe (fixed ","),
          fixed ")" ]
  | conversion => inParentheses (all [rule expression, maybe (fixed ",")])
  | literalValue => inBraces (maybe (listWithComma (rule element)))
  | element => all [rule elementValue, maybe (all [fixed ":", rule elementValue])]
  | elementValue => choice (rule literalValue) [rule expression]
  -- declarations
  | declaration =>
      choice (all [fixed "const", grouped (rule constantSpec)])
        [ all [fixed "var", grouped (rule variableSpec)],
          all [fixed "type", grouped (rule typeSpec)] ]
  | constantSpec =>
      all [names, maybe (all [maybe (rule type), fixed "=", rule expressionList])]
  | variableSpec =>
      all
        [ names,
          choice (all [fixed "=", rule expressionList])
            [all [rule type, maybe (all [fixed "=", rule expressionList])]] ]
  | typeSpec =>
      all
        [ aName,
          choice (all [fixed "=", rule type])
            [all [rule typeParameters, maybe (fixed "="), rule type], rule type] ]
  | importDeclaration => all [fixed "import", grouped (rule importSpec)]
  | importSpec => all [maybe (choice (fixed ".") [aName]), anyOf .text]
  | packageClause => all [fixed "package", aName]
  | methodDeclaration =>
      all [fixed "func", rule parameters, aName, rule signature, maybe (rule block)]
  -- statements
  | block => inBraces statements
  | statementItem => choice (fixed ";") [item (rule statement)]
  | statement =>
      choice (rule declaration)
        [ all [fixed "return", maybe (rule expressionList)],
          all [oneOf "go" ["defer"], rule expression],
          fixed "fallthrough",
          all [oneOf "break" ["continue"], maybe aName],
          all [fixed "goto", aName],
          rule block, rule ifStatement, rule forStatement, rule switchStatement,
          rule selectStatement,
          all [aName, joined (choice (all [fixed ":", rule statement]) [fixed ":"])],
          rule simple ]
  | simple => all [rule expression, maybe (rule simpleTail)]
  | simpleTail =>
      choice (oneOf "++" ["--"])
        [ all [fixed "<-", rule expression],
          all [many (all [fixed ",", rule expression]), assignment, rule expressionList] ]
  | ifStatement =>
      all
        [ fixed "if",
          within .header
            (choice (all [fixed ";", rule expression])
              [ all
                  [ rule expression,
                    maybe (all [maybe (rule simpleTail), fixed ";", rule expression]) ] ]),
          rule block,
          maybe (all [fixed "else", choice (rule ifStatement) [rule block]]) ]
  | forStatement =>
      all
        [ fixed "for",
          choice (rule block)
            [ all
                [ within .header
                    (all
                      [ maybe (all [rule expressionList, binding]), fixed "range",
                        rule expression ]),
                  rule block ],
              all
                [ within .header
                    (all
                      [ maybe (rule simple), fixed ";", maybe (rule expression), fixed ";",
                        maybe (rule simple) ]),
                  rule block ],
              all [within .header (rule expression), rule block] ] ]
  | switchStatement =>
      choice
        (all
          [ fixed "switch",
            within .header
              (all
                [ headerStart, maybe (all [aName, fixed ":="]), rule expression, fixed ".",
                  fixed "(", fixed "type", fixed ")" ]),
            inBraces (many (rule typeCase)) ])
        [ all
            [ fixed "switch", within .header (all [headerStart, maybe (rule expression)]),
              inBraces (many (rule expressionCase)) ] ]
  | typeCase => choice (all [fixed "case", list (rule type), fixed ":", statements]) [defaultCase]
  | expressionCase =>
      choice (all [fixed "case", rule expressionList, fixed ":", statements]) [defaultCase]
  | selectStatement => all [fixed "select", inBraces (many (rule selectCase))]
  | selectCase =>
      choice
        (all
          [ fixed "case",
            choice
              (all [rule expression, choice (fixed ":") [all [fixed "<-", rule expression, fixed ":"]]])
              [all [rule expressionList, binding, rule expression, fixed ":"]],
            statements ])
        [defaultCase]

/-- Recognition of a rule, with rules nested at most `depth` deep. -/
def recogniseWithin : Nat → Rule → Place → List Token → Option (List Token)
  | 0 => fun _ _ _ => none
  | depth + 1 => fun rule => Pattern.recognise (recogniseWithin depth) rule.pattern

/-- A bound on the nesting of rules.  No rule leads back to itself before a token
is taken, so between two tokens each rule is entered at most once. -/
def depthBound (tokens : List Token) : Nat :=
  64 * (tokens.length + 1)

/-- What is left of the tokens after the construct; nothing if they do not start
with it. -/
def recognise (rule : Rule) (place : Place) (tokens : List Token) : Option (List Token) :=
  recogniseWithin (depthBound tokens) rule place tokens

end Rule

end AddonBindings.Go
