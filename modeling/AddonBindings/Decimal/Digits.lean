import AddonBindings.Decimal.Reading

/-!
Contract: how many digits a whole number may have where it is read or written in base
ten.

Owns: the limit, which numbers are past it, and the text of a whole number that is not.

Does not own: the failures past the limit, which are reported where they arise.
-/

namespace AddonBindings.Decimal

/-- The most digits of a whole number in base ten.  Other bases have no limit. -/
def digitLimit : Nat := 4300

/-- How many digits stand at the start of a whole number, after its sign. -/
def digitCount (cs : List Char) : Nat :=
  ((splitSign (numberChars cs)).2.takeWhile Char.isDigit).length

/-- The number has more digits than the limit. -/
def isTooLong (value : Int) : Bool :=
  digitLimit < (Nat.toDigits 10 value.natAbs).length

/-- The text of a whole number, unless it is too long. -/
def writeWhole? (value : Int) : Option String :=
  if isTooLong value then none else some (toString value)

end AddonBindings.Decimal
