/-!
Contract: the spelling of literals in Go sources.

Owns: for numbers, runes and texts, what is left of the characters after the
longest literal at their start.

Does not own: the values of literals; nothing here depends on them.
-/

namespace AddonBindings.Go.Literal

/-- A digit of base sixteen. -/
def isHexadecimal (c : Char) : Bool :=
  c.isDigit || ('a' ≤ c && c ≤ 'f') || ('A' ≤ c && c ≤ 'F')

/-- A digit of base eight. -/
def isOctal (c : Char) : Bool := '0' ≤ c && c ≤ '7'

/-- A digit of base two. -/
def isBinary (c : Char) : Bool := c == '0' || c == '1'

/-- What follows further digits; an underscore may stand before each of them. -/
def afterMoreDigits (isDigit : Char → Bool) : List Char → List Char
  | [] => []
  | '_' :: c :: rest => if isDigit c then afterMoreDigits isDigit rest else '_' :: c :: rest
  | c :: rest => if isDigit c then afterMoreDigits isDigit rest else c :: rest

def afterDigits? (isDigit : Char → Bool) : List Char → Option (List Char)
  | [] => none
  | c :: rest => if isDigit c then some (afterMoreDigits isDigit rest) else none

/-- The characters without an underscore in front. -/
def skipUnderscore : List Char → List Char
  | '_' :: rest => rest
  | cs => cs

/-- What follows an exponent that `isMark` introduces. -/
def afterExponent? (isMark : Char → Bool) : List Char → Option (List Char)
  | mark :: sign :: rest =>
      if !isMark mark then none
      else if sign = '+' ∨ sign = '-' then afterDigits? Char.isDigit rest
      else afterDigits? Char.isDigit (sign :: rest)
  | _ => none

def isDecimalMark (c : Char) : Bool := c == 'e' || c == 'E'

def isHexadecimalMark (c : Char) : Bool := c == 'p' || c == 'P'

/-- The rests after the whole numbers at the start. -/
def afterWholes (cs : List Char) : List (Option (List Char)) :=
  match cs with
  | '0' :: rest =>
      let inBase (isDigit : Char → Bool) (lower upper : Char) : Option (List Char) :=
        match rest with
        | mark :: digits =>
            if mark = lower ∨ mark = upper then afterDigits? isDigit (skipUnderscore digits)
            else none
        | [] => none
      [ some rest, afterDigits? isOctal (skipUnderscore rest),
        inBase isOctal 'o' 'O', inBase isBinary 'b' 'B', inBase isHexadecimal 'x' 'X' ]
  | c :: rest => if c.isDigit then [some (afterMoreDigits Char.isDigit rest)] else []
  | [] => []

/-- The rests after digits that may have a point among them. -/
def afterMantissas (isDigit : Char → Bool) (cs : List Char) : List (List Char) :=
  match cs with
  | '.' :: rest => (afterDigits? isDigit rest).toList
  | _ =>
      match afterDigits? isDigit cs with
      | some ('.' :: rest) => ('.' :: rest) :: rest :: (afterDigits? isDigit rest).toList
      | other => other.toList

def afterDecimalFloats (cs : List Char) : List (Option (List Char)) :=
  let mantissas := afterMantissas Char.isDigit cs
  let withoutPoint := afterDigits? Char.isDigit cs
  -- a number without a point needs an exponent
  (mantissas.filter fun rest => some rest != withoutPoint).map some ++
    mantissas.map (afterExponent? isDecimalMark)

def afterHexadecimalFloats (cs : List Char) : List (Option (List Char)) :=
  match cs with
  | '0' :: mark :: rest =>
      if mark = 'x' ∨ mark = 'X' then
        (afterMantissas isHexadecimal (skipUnderscore rest)).map (afterExponent? isHexadecimalMark)
      else []
  | _ => []

def shortest : List (Option (List Char)) → Option (List Char)
  | [] => none
  | none :: others => shortest others
  | some rest :: others =>
      match shortest others with
      | none => some rest
      | some other => if other.length < rest.length then some other else some rest

/-- What follows the longest number at the start. -/
def afterNumber? (cs : List Char) : Option (List Char) :=
  let reals := afterWholes cs ++ afterDecimalFloats cs ++ afterHexadecimalFloats cs
  let imaginary (rest : Option (List Char)) : Option (List Char) :=
    match rest with
    | some ('i' :: rest) => some rest
    | _ => none
  shortest (reals ++ (afterDigits? Char.isDigit cs :: reals).map imaginary)

/-- What follows exactly `count` characters of a class. -/
def afterExactly? (count : Nat) (isMember : Char → Bool) (cs : List Char) : Option (List Char) :=
  let members := cs.take count
  if members.length = count ∧ members.all isMember then some (cs.drop count) else none

/-- What follows the backslash escape of a code point, given the character after
the backslash. -/
def afterCode? : List Char → Option (List Char)
  | 'x' :: rest => afterExactly? 2 isHexadecimal rest
  | 'u' :: rest => afterExactly? 4 isHexadecimal rest
  | 'U' :: rest => afterExactly? 8 isHexadecimal rest
  | _ => none

/-- What follows a rune, given the characters after the opening mark.  Only the
known escapes are taken. -/
def afterRune? (cs : List Char) : Option (List Char) :=
  let closing (rest : Option (List Char)) : Option (List Char) :=
    match rest with
    | some ('\'' :: rest) => some rest
    | _ => none
  match cs with
  | '\\' :: c :: rest =>
      if c ∈ ['a', 'b', 'f', 'n', 'r', 't', 'v', '\\', '\''] then closing (some rest)
      else closing ((afterExactly? 3 isOctal (c :: rest)).or (afterCode? (c :: rest)))
  | c :: rest => if c = '\'' ∨ c = '\n' then none else closing (some rest)
  | [] => none

/-- What follows an interpreted text, given the characters after the opening mark.
A backslash takes any character with it; only code points have a fixed form. -/
def afterInterpreted? : List Char → Option (List Char)
  | [] => none
  | '"' :: rest => some rest
  | '\\' :: c :: rest =>
      if c ∈ ['x', 'u', 'U'] ∧ (afterCode? (c :: rest)).isNone then none
      else afterInterpreted? rest
  | c :: rest => if c = '\n' then none else afterInterpreted? rest

/-- What follows a raw text, given the characters after the opening mark. -/
def afterRaw? : List Char → Option (List Char)
  | [] => none
  | c :: rest => if c = '`' then some rest else afterRaw? rest

end AddonBindings.Go.Literal
