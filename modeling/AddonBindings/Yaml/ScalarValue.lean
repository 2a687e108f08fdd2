import AddonBindings.Datum.Basic
import AddonBindings.Text.LetterCase
import AddonBindings.Text.Lines
import AddonBindings.Yaml.Fault
import AddonBindings.Yaml.Tag

/-!
Contract: the values of YAML scalars.

Owns: the value that a text stands for under each type of scalars, and the faults
of texts that stand for none.

Does not own: how a scalar gets its type, which is in `AddonBindings.Yaml.Tag`.
-/

namespace AddonBindings.Yaml

/-- The truth value that a word stands for, in any case. -/
def truthOf (text : String) : Except ScalarFault Bool :=
  let word := String.ofList (text.toList.flatMap Text.lowerCase)
  if word = "yes" ∨ word = "true" ∨ word = "on" then .ok true
  else if word = "no" ∨ word = "false" ∨ word = "off" then .ok false
  else .error (.notTruth word)

/-- Digits in a base, which may name the base once more. -/
def wholeInBase (base : Nat) (mark : Char) (cs : List Char) : Except ScalarFault Int :=
  let (negative, body) := Decimal.splitSign (Decimal.numberChars cs)
  let digits :=
    match body with
    | '0' :: c :: rest => if c.toLower = mark && !rest.isEmpty then rest else body
    | _ => body
  match Decimal.natural? base digits with
  | some value => .ok (if negative then -Int.ofNat value else Int.ofNat value)
  | none => .error (.notWhole base (String.ofList cs))

/-- Digits in base ten.  Their number is looked at before anything else. -/
def wholeInTen (cs : List Char) : Except ScalarFault Int :=
  if Decimal.digitLimit < Decimal.digitCount cs then
    .error (.tooManyDigits (Decimal.digitCount cs))
  else
    match Decimal.whole? 10 cs with
    | some value => .ok value
    | none => .error (.notWhole 10 (String.ofList cs))

/-- The sign in front and the characters after it; there is at least one character. -/
def splitNumber (cs : List Char) : Except ScalarFault (Bool × List Char) :=
  if cs.isEmpty then .error .noDigits else .ok (Decimal.splitSign cs)

def withoutLines (text : String) : List Char := text.toList.filter (· != '_')

def wholeOf (text : String) : Except ScalarFault Int := do
  let (negative, cs) ← splitNumber (withoutLines text)
  let magnitude ←
    match cs with
    | [] => .error .noDigits
    | ['0'] => .ok 0
    | '0' :: 'b' :: digits => wholeInBase 2 'b' digits
    | '0' :: 'x' :: digits => wholeInBase 16 'x' digits
    | '0' :: _ => wholeInBase 8 'o' cs
    | _ =>
        if cs.contains ':' then do
          let parts ← (Text.splitAtMark ':' cs).mapM wholeInTen
          pure (parts.foldl (fun value part => value * 60 + part) 0)
        else wholeInTen cs
  return if negative then -magnitude else magnitude

def numberInTen (cs : List Char) : Except ScalarFault Float :=
  match Decimal.read? (String.ofList cs) with
  | some value => .ok value
  | none => .error (.notNumber (String.ofList cs))

/-- The value of parts in base sixty, the last one first, added to `value`.  The weight
of a part is a whole number, which has to fit a machine number. -/
def sixtieths (weight : Nat) (value : Float) : List Float → Except ScalarFault Float
  | [] => .ok value
  | part :: others =>
      if 2 ^ 1024 ≤ weight then .error .tooManyParts
      else sixtieths (weight * 60) (value + part * Float.ofNat weight) others

def numberOf (text : String) : Except ScalarFault Float := do
  let lowered := (withoutLines text).flatMap Text.lowerCase
  let (negative, cs) ← splitNumber lowered
  let sign : Float := if negative then -1.0 else 1.0
  if String.ofList cs = ".inf" then return sign * (1.0 / 0.0)
  else if String.ofList cs = ".nan" then return 0.0 / 0.0
  else if cs.contains ':' then
    let parts ← (Text.splitAtMark ':' cs).mapM numberInTen
    return sign * (← sixtieths 1 0.0 parts.reverse)
  else return sign * (← numberInTen cs)

def momentOf (text : String) : Except ScalarFault Datum :=
  match spelledDate? (withoutFinalBreak text.toList) with
  | none => .error .notDate
  | some ⟨date, _, none⟩ => (date.check.mapError .outOfCalendar).map .date
  | some ⟨date, _, some time⟩ => ((time.toMoment date).check.mapError .outOfCalendar).map .moment

/-- The six bits that a character of base 64 stands for. -/
def sixBits? (c : Char) : Option Nat :=
  if 'A' ≤ c ∧ c ≤ 'Z' then some (c.toNat - 'A'.toNat)
  else if 'a' ≤ c ∧ c ≤ 'z' then some (c.toNat - 'a'.toNat + 26)
  else if '0' ≤ c ∧ c ≤ '9' then some (c.toNat - '0'.toNat + 52)
  else if c = '+' then some 62
  else if c = '/' then some 63
  else none

/-- The bytes of base 64, of which `count` characters of a group of four have been
read: `left` holds their bits that are not yet in a byte, and `pads` equal signs
have followed them.  Other characters do not count. -/
def bytesOfBase64 (count left pads : Nat) : List Char → Option (List UInt8)
  | [] => if count = 0 then some [] else none
  | c :: rest =>
      if c = '=' then
        if 2 ≤ count && 4 ≤ count + pads + 1 then some []
        else bytesOfBase64 count left (if 2 ≤ count then pads + 1 else pads) rest
      else
        match sixBits? c with
        | none => bytesOfBase64 count left pads rest
        | some bits =>
            if count = 0 then bytesOfBase64 1 bits 0 rest
            else if count = 1 then
              (bytesOfBase64 2 (bits % 16) 0 rest).map (UInt8.ofNat (left * 4 + bits / 16) :: ·)
            else if count = 2 then
              (bytesOfBase64 3 (bits % 4) 0 rest).map (UInt8.ofNat (left * 16 + bits / 4) :: ·)
            else (bytesOfBase64 0 0 0 rest).map (UInt8.ofNat (left * 64 + bits) :: ·)

def bytesOf (text : String) : Except Fault (List UInt8) :=
  if text.toList.any fun c => 128 ≤ c.toNat then .error .malformed
  else
    match bytesOfBase64 0 0 0 text.toList with
    | some bytes => .ok bytes
    | none => .error .malformed

inductive ScalarType where
  | null
  | bool
  | int
  | float
  | bytes
  | timestamp
  | text
deriving DecidableEq, Repr

def ScalarType.valueOf (type : ScalarType) (spelling : String) : Except Fault Datum :=
  match type with
  | .null => .ok .null
  | .bool => ((truthOf spelling).map .bool).mapError .scalar
  | .int => ((wholeOf spelling).map .int).mapError .scalar
  | .float => ((numberOf spelling).map .float).mapError .scalar
  | .bytes => (bytesOf spelling).map .bytes
  | .timestamp => (momentOf spelling).mapError .scalar
  | .text => .ok (.text spelling)

end AddonBindings.Yaml
