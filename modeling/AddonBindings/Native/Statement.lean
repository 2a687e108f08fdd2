import AddonBindings.Boundary.Basic
import AddonBindings.Text.Layout

/-!
Contract: the statements of a generated native callback.

Owns:
- the statements as data: guards, conversions, the call and the result;
- the lines of each statement;
- the local variables that a statement declares.

Does not own: which statements a callback has, which is in
`AddonBindings.Native.Wrapper`.
-/

namespace AddonBindings.Native

inductive Condition where
  /-- Fewer than `count` arguments are given. -/
  | fewerArguments (count : Int)
  /-- The argument at `index` is no text. -/
  | notText (index : Int)
  /-- The argument at `index` is no number. -/
  | notNumber (index : Int)
deriving DecidableEq, Repr

inductive ReturnValue where
  /-- The result as a text. -/
  | text
  /-- The result as a number. -/
  | number
deriving DecidableEq, Repr

inductive Statement where
  | blank
  | remark (text : String)
  | declareIsolate
  | declareScope
  /-- If the condition holds, raise a type error and leave the callback. -/
  | guardThat (condition : Condition) (message : String)
  /-- Declare `variable` as the text of the argument at `index`. -/
  | takeText (variableName : String) (index : Int)
  /-- Declare `variable` as the number in the argument at `index`. -/
  | takeNumber (variableName : String) (index : Int)
  /-- Call the function, and keep its result if `keeps`. -/
  | call (function : String) (arguments : List String) (keeps : Bool)
  /-- Convert the kept result and return it. -/
  | giveBack (value : ReturnValue)
deriving DecidableEq, Repr

def Condition.text : Condition → String
  | fewerArguments count => "args.Length() < " ++ toString count
  | notText index => "!args[" ++ toString index ++ "]->IsString()"
  | notNumber index => "!args[" ++ toString index ++ "]->IsNumber()"

def ReturnValue.conversion : ReturnValue → String
  | text => "String::NewFromUtf8(isolate, result, NewStringType::kNormal).ToLocalChecked()"
  | number => "Number::New(isolate, result)"

def raiseTypeError (message : String) : List String :=
  [ "isolate->ThrowException(Exception::TypeError(",
    "    String::NewFromUtf8(isolate, \"" ++ message ++ "\").ToLocalChecked()));",
    "return;" ]

namespace Statement

/-- The variable that keeps the text behind a text argument alive. -/
def textHolder (variableName : String) : String := variableName ++ "_s"

def callText (function : String) (arguments : List String) (keeps : Bool) : String :=
  let invocation := function ++ "(" ++ String.intercalate ", " arguments ++ ");"
  if keeps then "auto result = " ++ invocation else invocation

def lines : Statement → List String
  | blank => [""]
  | remark text => ["// " ++ text]
  | declareIsolate => ["Isolate *isolate = args.GetIsolate();"]
  | declareScope => ["HandleScope scope(isolate);"]
  | guardThat condition message =>
      ("if (" ++ condition.text ++ ") \x7b") ::
        ((raiseTypeError message).map (Text.indentation ++ ·) ++ ["\x7d"])
  | takeText variableName index =>
      [ "String::Utf8Value " ++ textHolder variableName ++ "(isolate, args[" ++ toString index ++ "]);",
        "char *" ++ variableName ++ " = *" ++ textHolder variableName ++ ";" ]
  | takeNumber variableName index =>
      ["auto " ++ variableName ++ " = args[" ++ toString index ++ "].As<Number>()->Value();"]
  | call function arguments keeps => [callText function arguments keeps]
  | giveBack value =>
      [ "auto nodeResult = " ++ value.conversion ++ ";",
        "args.GetReturnValue().Set(nodeResult);" ]

/-- The variables that a statement declares, in order. -/
def declares : Statement → List String
  | declareIsolate => ["isolate"]
  | declareScope => ["scope"]
  | takeText variableName _ => [textHolder variableName, variableName]
  | takeNumber variableName _ => [variableName]
  | call _ _ true => ["result"]
  | giveBack _ => ["nodeResult"]
  | blank | remark _ | guardThat _ _ | call _ _ false => []

end Statement

end AddonBindings.Native
