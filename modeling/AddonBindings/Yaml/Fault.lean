import AddonBindings.Calendar
import AddonBindings.Decimal.Digits
import AddonBindings.Text.Quoted

/-!
Contract: why a YAML text has no value.

Owns: malformed texts, and scalars and numbers that do not fit their type, with the
wording of the latter.

Does not own: reports about settings, which are in `AddonBindings.GenerationFault`.
-/

namespace AddonBindings.Yaml

/-- The text of a scalar does not fit its type. -/
inductive ScalarFault where
  /-- No whole number in this base. -/
  | notWhole (base : Nat) (text : String)
  /-- A whole number in base ten with more digits than are read. -/
  | tooManyDigits (count : Nat)
  /-- No number. -/
  | notNumber (text : String)
  /-- A number without any character after its sign. -/
  | noDigits
  /-- A number with more parts in base sixty than a machine number has room for. -/
  | tooManyParts
  /-- No truth value. -/
  | notTruth (text : String)
  /-- No date. -/
  | notDate
  /-- A mapping where a date is read from the text of the node itself. -/
  | noText
  /-- A date or time that is out of range. -/
  | outOfCalendar (fault : CalendarFault)
  /-- An escape past the last code point. -/
  | notCharacter
  /-- An escape past the range of machine numbers. -/
  | hugeCharacter
deriving DecidableEq, Repr

def ScalarFault.message : ScalarFault → String
  | notWhole base text =>
      -- only so much of the text is shown
      "invalid literal for int() with base " ++ toString base ++ ": " ++
        String.ofList ((Text.quoted text).toList.take 200)
  | tooManyDigits count =>
      "Exceeds the limit (" ++ toString Decimal.digitLimit ++
        " digits) for integer string conversion: value has " ++ toString count ++
        " digits; use sys.set_int_max_str_digits() to increase the limit"
  | notNumber text => "could not convert string to float: " ++ Text.quoted text
  | tooManyParts => "int too large to convert to float"
  | noDigits => "string index out of range"
  | notTruth text => Text.quoted text
  | notDate => "'NoneType' object has no attribute 'groupdict'"
  | noText => "expected string or bytes-like object, got 'list'"
  | outOfCalendar fault => fault.message
  | notCharacter => "chr() arg not in range(0x110000)"
  | hugeCharacter => "Python int too large to convert to C int"

/-- Why a text has no value. -/
inductive Fault where
  /-- The text breaks the rules of the format. -/
  | malformed
  | scalar (fault : ScalarFault)
deriving DecidableEq, Repr

end AddonBindings.Yaml
