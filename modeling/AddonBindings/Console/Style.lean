import AddonBindings.Console.ColourNames
import AddonBindings.Decimal.Reading
import AddonBindings.Text.LetterCase
import AddonBindings.Text.Lines

/-!
Contract: the normal spelling of styles in console markup.

Owns:
- the words for attributes and colours;
- the style that words describe, and the colour that cannot be read at all;
- the normal spelling, by which a closing tag finds its opening tag.

Does not own: the tags, which are in `AddonBindings.Console.Markup`.
-/

namespace AddonBindings.Console

inductive StyleFault where
  /-- A colour of three numbers has a part without digits. -/
  | emptyPart
deriving DecidableEq, Repr

def StyleFault.message : StyleFault → String
  | emptyPart => "invalid literal for int() with base 10: ''"

/-- The attributes in their normal order, each with its further names. -/
def attributeNames : List (String × List String) :=
  [ ("bold", ["b"]), ("dim", ["d"]), ("italic", ["i"]), ("underline", ["u"]), ("blink", []),
    ("blink2", []), ("reverse", ["r"]), ("conceal", ["c"]), ("strike", ["s"]),
    ("underline2", ["uu"]), ("frame", []), ("encircle", []), ("overline", ["o"]) ]

structure Style where
  attributes : List (String × Bool) := []
  colour : Option String := none
  background : Option String := none
  link : Option String := none
deriving DecidableEq, Repr

def attribute? (word : String) : Option String :=
  (attributeNames.find? fun (name, others) => name = word || others.contains word).map Prod.fst

/-- What stands between `front` and a closing parenthesis at the end. -/
def inParentheses? (front : String) (cs : List Char) : Option (List Char) :=
  if front.toList.isPrefixOf cs && cs.getLast? = some ')' then some (cs.drop front.length).dropLast
  else none

/-- A number sign and six hexadecimal digits. -/
def isHexadecimalColour (cs : List Char) : Bool :=
  cs.head? = some '#' && cs.length = 7 &&
    cs.tail.all fun c => c.isDigit || ('a' ≤ c && c ≤ 'f')

/-- A number of up to three digits in parentheses. -/
def isNumberedColour (cs : List Char) : Bool :=
  match inParentheses? "color(" cs with
  | some digits =>
      digits.all Char.isDigit && digits.length ≤ 3 &&
        (Decimal.natural? 10 digits).any (· ≤ 255)
  | none => false

/-- Three numbers in parentheses, in the digits of any script. -/
def isMixedColour (cs : List Char) : Except StyleFault Bool :=
  match inParentheses? "rgb(" cs with
  | some inner =>
      let digits := inner.map Decimal.plainDigit
      let parts := Text.splitAtMark ',' digits
      if digits.all (fun c => c.isDigit || c == ',') && parts.length = 3 then
        match parts.mapM (Decimal.natural? 10) with
        | some numbers => .ok (numbers.all (· ≤ 255))
        | none => .error .emptyPart
      else .ok false
  | none => .ok false

def isColour (word : String) : Except StyleFault Bool :=
  if standardColours.contains word || isHexadecimalColour word.toList ||
      isNumberedColour word.toList || paletteColours.contains word then .ok true
  else isMixedColour word.toList

def Style.withAttribute (style : Style) (name : String) (value : Bool) : Style :=
  { style with attributes := (name, value) :: style.attributes }

def smallLetters (cs : List Char) : String :=
  String.ofList (cs.flatMap Text.lowerCase)

def styleOfWords (style : Style) : List String → Except StyleFault (Option Style)
  | [] => .ok (some style)
  | word :: rest =>
      let small := smallLetters word.toList
      match small, rest with
      | "on", colour :: rest => do
          let background := smallLetters colour.toList
          if ← isColour background then styleOfWords { style with background := some background } rest
          else return none
      | "not", name :: rest =>
          match attribute? name with
          | some known => styleOfWords (style.withAttribute known false) rest
          | none => .ok none
      | "link", address :: rest => styleOfWords { style with link := some address } rest
      | _, rest =>
          match attribute? small with
          | some known => styleOfWords (style.withAttribute known true) rest
          | none => do
              if ← isColour small then styleOfWords { style with colour := some small } rest
              else return none

/-- The words of a style in normal order. -/
def Style.words (style : Style) : List String :=
  (attributeNames.filterMap fun (name, _) =>
    (style.attributes.lookup name).map fun value => if value then name else "not " ++ name) ++
  style.colour.toList ++
  (style.background.toList.flatMap fun word => ["on", word]) ++
  (style.link.toList.flatMap fun word => ["link", word])

/-- The parts of a text between blanks. -/
def wordsOf (cs : List Char) : List String :=
  let step (c : Char) (words : List (List Char)) : List (List Char) :=
    if Text.isBlank c then [] :: words
    else
      match words with
      | [] => [[c]]
      | word :: rest => (c :: word) :: rest
  ((cs.foldr step [[]]).filter fun word => !word.isEmpty).map String.ofList

/-- The style that a text describes, if it describes one. -/
def styleOf (cs : List Char) : Except StyleFault (Option Style) :=
  let words := wordsOf cs
  if words = ["none"] then .ok (some {}) else styleOfWords {} words

/-- The normal spelling of a style.  What describes no style is spelled in small
letters, without blanks around it. -/
def normalStyle (cs : List Char) : Except StyleFault String := do
  match ← styleOf cs with
  | some style => return if style.words.isEmpty then "none" else " ".intercalate style.words
  | none => return smallLetters (Text.trimChars cs)

end AddonBindings.Console
