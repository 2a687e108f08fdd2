import AddonBindings.Text.Blank

/-!
Contract: reading numbers from text.

Owns:
- the decimal digits of all scripts, and the characters of a number without what
  surrounds it;
- decimal numbers with a point and an exponent, infinities and not-a-number;
- whole numbers in a base from two to sixteen.

Does not own: which spellings a document format takes for numbers, and how many
digits a number may have, which is in `AddonBindings.Decimal.Digits`.
-/

namespace AddonBindings.Decimal

/-- The decimal zeros of all scripts.  The other nine digits follow each of them. -/
def scriptZeros : List Nat :=
  [ 0x30, 0x660, 0x6F0, 0x7C0, 0x966, 0x9E6, 0xA66, 0xAE6, 0xB66, 0xBE6, 0xC66, 0xCE6, 0xD66,
    0xDE6, 0xE50, 0xED0, 0xF20, 0x1040, 0x1090, 0x17E0, 0x1810, 0x1946, 0x19D0, 0x1A80, 0x1A90,
    0x1B50, 0x1BB0, 0x1C40, 0x1C50, 0xA620, 0xA8D0, 0xA900, 0xA9D0, 0xA9F0, 0xAA50, 0xABF0,
    0xFF10, 0x104A0, 0x10D30, 0x11066, 0x110F0, 0x11136, 0x111D0, 0x112F0, 0x11450, 0x114D0,
    0x11650, 0x116C0, 0x11730, 0x118E0, 0x11950, 0x11C50, 0x11D50, 0x11DA0, 0x16A60, 0x16AC0,
    0x16B50, 0x1D7CE, 0x1D7D8, 0x1D7E2, 0x1D7EC, 0x1D7F6, 0x1E140, 0x1E2F0, 0x1E950, 0x1FBF0 ]

/-- The ASCII digit in place of a decimal digit of any script. -/
def plainDigit (c : Char) : Char :=
  match scriptZeros.find? fun start => start ≤ c.toNat && c.toNat < start + 10 with
  | some start => Char.ofNat ('0'.toNat + (c.toNat - start))
  | none => c

/-- The blanks that may stand around a number: the ASCII separators may not. -/
def isNumberBlank (c : Char) : Bool :=
  Text.isBlank c && !(28 ≤ c.val && c.val ≤ 31)

/-- The characters of a number without the blanks around it, and with ASCII digits. -/
def numberChars (cs : List Char) : List Char :=
  (Text.dropEndWhile isNumberBlank (cs.dropWhile isNumberBlank)).map plainDigit

/-- The value of a digit, up to base sixteen. -/
def digitValue? (c : Char) : Option Nat :=
  if '0' ≤ c ∧ c ≤ '9' then some (c.toNat - '0'.toNat)
  else if 'a' ≤ c ∧ c ≤ 'f' then some (c.toNat - 'a'.toNat + 10)
  else if 'A' ≤ c ∧ c ≤ 'F' then some (c.toNat - 'A'.toNat + 10)
  else none

/-- The natural number that all the characters spell in `base`; there is at least
one digit. -/
def natural? (base : Nat) (cs : List Char) : Option Nat :=
  if cs.isEmpty then none
  else
    cs.foldl
      (fun read c => do
        let value ← read
        let digit ← digitValue? c
        if digit < base then some (value * base + digit) else none)
      (some 0)

/-- A sign in front is split off; the flag says that it was a minus. -/
def splitSign : List Char → Bool × List Char
  | '-' :: rest => (true, rest)
  | '+' :: rest => (false, rest)
  | cs => (false, cs)

/-- The whole number that the characters spell in `base`, with blanks around it
and a sign in front. -/
def whole? (base : Nat) (cs : List Char) : Option Int :=
  let (negative, digits) := splitSign (numberChars cs)
  (natural? base digits).map fun value => if negative then -Int.ofNat value else Int.ofNat value

/-- `coefficient * 10 ^ exponent`, rounded to nearest.  Past the exponents of the
format the result is an infinity or zero. -/
def ofScientific (coefficient : Nat) (exponent : Int) : Float :=
  if coefficient = 0 then 0.0
  else
    let size := exponent + Int.ofNat (Nat.toDigits 10 coefficient).length
    if size < -400 then 0.0
    else if 400 < size then 1.0 / 0.0
    else Float.ofScientific coefficient (exponent < 0) exponent.natAbs

/-- An unsigned decimal: digits, a point and digits, and an exponent. -/
def unsigned? (cs : List Char) : Option Float := do
  let whole := cs.takeWhile Char.isDigit
  let afterWhole := cs.dropWhile Char.isDigit
  let (fraction, afterFraction) :=
    match afterWhole with
    | '.' :: rest => (rest.takeWhile Char.isDigit, rest.dropWhile Char.isDigit)
    | rest => ([], rest)
  let coefficient ← natural? 10 (whole ++ fraction)
  let exponent ←
    match afterFraction with
    | [] => some 0
    | mark :: rest =>
        if mark = 'e' ∨ mark = 'E' then
          let (negative, digits) := splitSign rest
          (natural? 10 digits).map fun value =>
            if negative then -Int.ofNat value else Int.ofNat value
        else none
  some (ofScientific coefficient (exponent - Int.ofNat fraction.length))

/-- The number that a text spells, with blanks around it and a sign in front.
Letters may be in either case. -/
def read? (text : String) : Option Float :=
  let (negative, cs) := splitSign (numberChars text.toList)
  let magnitude : Option Float :=
    match String.ofList (cs.map Char.toLower) with
    | "inf" | "infinity" => some (1.0 / 0.0)
    | "nan" => some (0.0 / 0.0)
    | _ => unsigned? cs
  magnitude.map fun number => if negative then -number else number

end AddonBindings.Decimal
