import AddonBindings.Yaml.Timestamp

/-!
Contract: the types of YAML values.

Owns: the tags of the types, and the tag of a scalar that has none, by the shape of
its text.

Does not own: the values, which are in `AddonBindings.Yaml.ScalarValue`.
-/

namespace AddonBindings.Yaml

def ownTagStart : String := "tag:yaml.org,2002:"

def ownTag (name : String) : String := ownTagStart ++ name

def isWord (words : List String) (cs : List Char) : Bool := words.contains (String.ofList cs)

def isTruthWord (cs : List Char) : Bool :=
  isWord
    [ "yes", "Yes", "YES", "no", "No", "NO", "true", "True", "TRUE", "false", "False", "FALSE",
      "on", "On", "ON", "off", "Off", "OFF" ] cs

/-- The words for no value. -/
def isNullWord (cs : List Char) : Bool := isWord ["~", "null", "Null", "NULL"] cs

/-- The characters without a sign in front. -/
def unsigned (cs : List Char) : List Char :=
  match cs with
  | '-' :: rest | '+' :: rest => rest
  | rest => rest

/-- One or more characters of a class. -/
def isRun (isMember : Char → Bool) (cs : List Char) : Bool := !cs.isEmpty && cs.all isMember

def isDigitOrLine (c : Char) : Bool := c.isDigit || c == '_'

def isDigits (cs : List Char) : Bool :=
  match cs with
  | first :: rest => first.isDigit && rest.all isDigitOrLine
  | [] => false

/-- The parts after the first of a number in base sixty: colons with one or two
digits each, less than sixty. -/
def isSixtieths : List Char → Bool
  | [] => true
  | ':' :: tens :: ones :: rest =>
      if ones.isDigit then '0' ≤ tens && tens ≤ '5' && isSixtieths rest
      else tens.isDigit && isSixtieths (ones :: rest)
  | [':', ones] => ones.isDigit
  | _ => false

/-- A number in base sixty with more than one part. -/
def isSexagesimal (cs : List Char) : Bool :=
  isDigits (cs.takeWhile (· != ':')) && cs.contains ':' && isSixtieths (cs.dropWhile (· != ':'))

/-- The text is a whole number without being told so. -/
def isPlainWhole (cs : List Char) : Bool :=
  let body := unsigned cs
  let startsAboveZero := body.head?.any (· != '0')
  match body with
  | '0' :: 'b' :: digits => isRun (fun c => c == '0' || c == '1' || c == '_') digits
  | '0' :: 'x' :: digits => isRun (fun c => (Decimal.digitValue? c).isSome || c == '_') digits
  | ['0'] => true
  | '0' :: digits => isRun (fun c => ('0' ≤ c && c ≤ '7') || c == '_') digits
  | _ => isDigits body || (startsAboveZero && isSexagesimal body)

def isExponent (cs : List Char) : Bool :=
  match cs with
  | [] => true
  | mark :: sign :: digits =>
      (mark == 'e' || mark == 'E') && (sign == '-' || sign == '+') && isRun Char.isDigit digits
  | _ => false

/-- The text is a number with a point without being told so. -/
def isPlainNumber (cs : List Char) : Bool :=
  let body := unsigned cs
  let whole := body.takeWhile (· != '.')
  let (fraction, exponent) := ((body.dropWhile (· != '.')).drop 1).span isDigitOrLine
  let hasPoint := body.contains '.'
  (hasPoint && isDigits whole && isExponent exponent) ||
    (cs.head? == some '.' && isDigits fraction && isExponent exponent) ||
    (hasPoint && isSexagesimal whole && exponent.isEmpty) ||
    isWord [".inf", ".Inf", ".INF"] body || isWord [".nan", ".NaN", ".NAN"] cs

/-- The characters without one line feed at the end. -/
def withoutFinalBreak (cs : List Char) : List Char :=
  if cs.getLast? = some '\n' then cs.dropLast else cs

def plainTag (text : String) : String :=
  let cs := withoutFinalBreak text.toList
  if text.isEmpty then ownTag "null"
  else if isTruthWord cs then ownTag "bool"
  else if isPlainNumber cs then ownTag "float"
  else if isPlainWhole cs then ownTag "int"
  else if isWord ["<<"] cs then ownTag "merge"
  else if isNullWord cs then ownTag "null"
  else if isPlainDate cs then ownTag "timestamp"
  else if isWord ["="] cs then ownTag "value"
  else ownTag "str"

end AddonBindings.Yaml
