/-!
Contract: decimal text of binary floating-point numbers.

Owns:
- the exact value of a finite number as an integer times a power of two, and
  the interval of reals that round to it;
- the shortest decimal digits that read back as the same number;
- the layout of those digits as positional or exponent notation.

Does not own: reading decimals, which is in `AddonBindings.Decimal.Reading`.
-/

namespace AddonBindings.Decimal

/-- A positive finite number `significand * 2 ^ exponent`. -/
structure Binary where
  significand : Nat
  exponent : Int
deriving DecidableEq, Repr

/-- The bit that normal numbers have and do not store: the least significand of a normal
number. -/
def hiddenBit : Nat := 4503599627370496

/-- The magnitude held by the bits of a finite number. -/
def Binary.ofBits (bits : UInt64) : Binary :=
  let fraction := (bits &&& 0x000F_FFFF_FFFF_FFFF).toNat
  let field := ((bits >>> 52) &&& 0x7FF).toNat
  if field = 0 then ⟨fraction, -1074⟩
  else ⟨fraction + hiddenBit, Int.ofNat field - 1075⟩

/-- A positive quotient of two natural numbers. -/
structure Ratio where
  numerator : Nat
  denominator : Nat
deriving DecidableEq, Repr

namespace Ratio

def ofBinary (count : Nat) (exponent : Int) : Ratio :=
  if exponent < 0 then ⟨count, Nat.pow 2 exponent.natAbs⟩ else ⟨count * Nat.pow 2 exponent.natAbs, 1⟩

/-- The quotient times a power of ten. -/
def scale (ratio : Ratio) (exponent : Int) : Ratio :=
  if exponent < 0 then ⟨ratio.numerator, ratio.denominator * Nat.pow 10 exponent.natAbs⟩
  else ⟨ratio.numerator * Nat.pow 10 exponent.natAbs, ratio.denominator⟩

/-- Order of quotients. -/
def le (left right : Ratio) : Bool :=
  left.numerator * right.denominator ≤ right.numerator * left.denominator

/-- The least `steps ≤ fuel` for which the quotient times `10 ^ steps` is at least one. -/
def stepsToOne (ratio : Ratio) : Nat → Nat
  | 0 => 0
  | fuel + 1 =>
      if ratio.denominator ≤ ratio.numerator then 0
      else stepsToOne ⟨ratio.numerator * 10, ratio.denominator⟩ fuel + 1

/-- The power of ten that is at most the quotient while the next one is not. -/
def magnitude (ratio : Ratio) : Int :=
  if ratio.denominator ≤ ratio.numerator then
    Int.ofNat (Nat.toDigits 10 (ratio.numerator / ratio.denominator)).length - 1
  else -Int.ofNat (stepsToOne ratio 400)

end Ratio

/-- The reals that round to a number: the midpoints to its two neighbours, in
quarters of its unit, and whether the midpoints themselves belong to it. -/
structure Rounding where
  low : Ratio
  high : Ratio
  closed : Bool
deriving DecidableEq, Repr

/-- The interval of a number.  Below a power of two the neighbour is half as far. -/
def Binary.rounding (number : Binary) : Rounding :=
  let quarters := number.significand * 4
  let below := if number.significand = hiddenBit && -1074 < number.exponent then 1 else 2
  { low := .ofBinary (quarters - below) (number.exponent - 2)
    high := .ofBinary (quarters + 2) (number.exponent - 2)
    closed := number.significand % 2 = 0 }

def Rounding.contains (interval : Rounding) (ratio : Ratio) : Bool :=
  if interval.closed then interval.low.le ratio && ratio.le interval.high
  else !ratio.le interval.low && !interval.high.le ratio

/-- Decimal digits and the power of ten of the first one. -/
structure Digits where
  digits : List Char
  magnitude : Int
deriving DecidableEq, Repr

/-- Digits without zeros at the end; at least one digit stays. -/
def Digits.ofCoefficient (coefficient : Nat) (lastPlace : Int) : Digits :=
  let all := Nat.toDigits 10 coefficient
  let kept := (all.reverse.dropWhile (· == '0')).reverse
  { digits := if kept.isEmpty then ['0'] else kept
    magnitude := lastPlace + Int.ofNat all.length - 1 }

/-- The point of the grid of `places` digits nearest to the number among its two
neighbours on that grid, if one of them reads back. -/
def Binary.onGrid? (number : Binary) (places : Nat) : Option Digits :=
  let value := Ratio.ofBinary number.significand number.exponent
  let lastPlace := value.magnitude - Int.ofNat places + 1
  let scaled := value.scale (-lastPlace)
  let floor := scaled.numerator / scaled.denominator
  let remainder := scaled.numerator % scaled.denominator
  let reads (coefficient : Nat) : Bool :=
    0 < coefficient && number.rounding.contains (Ratio.scale ⟨coefficient, 1⟩ lastPlace)
  let lower := reads floor
  let upper := reads (floor + 1)
  -- an exact tie goes to the even neighbour
  let preferLower :=
    2 * remainder < scaled.denominator ||
      (2 * remainder == scaled.denominator && floor % 2 == 0)
  if lower && (preferLower || !upper) then some (.ofCoefficient floor lastPlace)
  else if upper then some (.ofCoefficient (floor + 1) lastPlace)
  else none

/-- The shortest digits that read back; seventeen digits always do. -/
def Binary.shortest (number : Binary) : Digits :=
  ((List.range 17).findSome? fun extra => number.onGrid? (extra + 1)).getD ⟨['0'], 0⟩

/-- How digits are laid out. -/
structure Layout where
  /-- The least magnitude written positionally. -/
  positionalFrom : Int
  /-- The first magnitude written with an exponent again. -/
  positionalBelow : Int
  /-- The least number of digits of an exponent. -/
  exponentPlaces : Nat
deriving DecidableEq, Repr

/-- Values are written positionally from `0.0001` up to below `10 ^ 16`, with at
least one digit after the point; an exponent has a sign and two digits. -/
def plainLayout : Layout := ⟨-4, 16, 2⟩

def Layout.write (layout : Layout) (digits : Digits) : String :=
  if layout.positionalFrom ≤ digits.magnitude && digits.magnitude < layout.positionalBelow then
    if digits.magnitude < 0 then
      let zeros := List.replicate (digits.magnitude.natAbs - 1) '0'
      String.ofList ('0' :: '.' :: (zeros ++ digits.digits))
    else
      let whole := digits.magnitude.toNat + 1
      let front := digits.digits.take whole
      let padded := front ++ List.replicate (whole - front.length) '0'
      let rest := digits.digits.drop whole
      String.ofList (padded ++ '.' :: (if rest.isEmpty then ['0'] else rest))
  else
    let power := Nat.toDigits 10 digits.magnitude.natAbs
    let places := List.replicate (layout.exponentPlaces - power.length) '0' ++ power
    let sign := if digits.magnitude < 0 then '-' else '+'
    let point := if digits.digits.length ≤ 1 then [] else '.' :: digits.digits.drop 1
    String.ofList (digits.digits.take 1 ++ point ++ 'e' :: sign :: places)

/-- The sign bit is set. -/
def isNegative (number : Float) : Bool :=
  number.toBits >>> 63 == 1

def isZero (number : Float) : Bool :=
  number.toBits &&& 0x7FFF_FFFF_FFFF_FFFF == 0

/-- The shortest text that reads back as the number. -/
def write (number : Float) : String :=
  let sign := if isNegative number then "-" else ""
  if number.isNaN then "nan"
  else if number.isInf then sign ++ "inf"
  else if isZero number then sign ++ "0.0"
  else sign ++ plainLayout.write (Binary.ofBits number.toBits).shortest

end AddonBindings.Decimal
