import AddonBindings.Calendar
import AddonBindings.Decimal.Reading
import AddonBindings.Yaml.Cursor

/-!
Contract: dates and times in YAML texts.

Owns: their spelling, and the date or moment that a spelling stands for.

Does not own: the ranges of their parts, which are in `AddonBindings.Calendar`.
-/

namespace AddonBindings.Yaml

/-- The time of day in a spelling: hour, minute and second, the digits of the
fraction, and the offset in seconds if there is one. -/
structure SpelledTime where
  hour : Nat
  minute : Nat
  second : Nat
  fraction : List Char
  offset : Option Int
deriving DecidableEq, Repr

/-- A spelled date, perhaps with a time; the flag says that month and day have two
digits each. -/
structure SpelledDate where
  date : Date
  padded : Bool
  time : Option SpelledTime
deriving DecidableEq, Repr

/-- Between `least` and `most` digits at the start, and what follows. -/
def digitsBetween? (least most : Nat) (cs : List Char) : Option (List Char × List Char) :=
  let digits := (cs.take most).takeWhile Char.isDigit
  if digits.length < least then none else some (digits, cs.drop digits.length)

/-- The number between `least` and `most` digits long at the start, and what follows. -/
def numberBetween? (least most : Nat) (cs : List Char) : Option (Nat × List Char) := do
  let (digits, rest) ← digitsBetween? least most cs
  return (← Decimal.natural? 10 digits, rest)

def afterMark? (mark : Char) : List Char → Option (List Char)
  | [] => none
  | c :: rest => if c = mark then some rest else none

/-- The offset that all of the characters spell; nothing is no offset. -/
def spelledOffset? (cs : List Char) : Option (Option Int) :=
  match cs, cs.dropWhile isSpaceOrTab with
  | [], _ => some none
  | _, ['Z'] => some (some 0)
  | _, sign :: rest =>
      if sign = '+' ∨ sign = '-' then do
        let (hours, rest) ← numberBetween? 1 2 rest
        let minutes ←
          match rest with
          | [] => some 0
          | _ =>
              let (minutes, rest) ← numberBetween? 2 2 (← afterMark? ':' rest)
              if rest.isEmpty then some minutes else none
        let seconds := Int.ofNat (hours * 3600 + minutes * 60)
        return some (if sign = '-' then -seconds else seconds)
      else none
  | _, [] => none

def spelledTime? (cs : List Char) : Option SpelledTime := do
  let (hour, rest) ← numberBetween? 1 2 cs
  let (minute, rest) ← numberBetween? 2 2 (← afterMark? ':' rest)
  let (second, rest) ← numberBetween? 2 2 (← afterMark? ':' rest)
  let (fraction, rest) :=
    match rest with
    | '.' :: rest => (rest.takeWhile Char.isDigit, rest.dropWhile Char.isDigit)
    | rest => ([], rest)
  return ⟨hour, minute, second, fraction, ← spelledOffset? rest⟩

def spelledDate? (cs : List Char) : Option SpelledDate := do
  let (year, rest) ← numberBetween? 4 4 cs
  let (month, rest) ← digitsBetween? 1 2 (← afterMark? '-' rest)
  let (day, rest) ← digitsBetween? 1 2 (← afterMark? '-' rest)
  let date : Date := ⟨year, ← Decimal.natural? 10 month, ← Decimal.natural? 10 day⟩
  let padded := month.length = 2 ∧ day.length = 2
  match rest with
  | [] => return ⟨date, padded, none⟩
  | mark :: after =>
      let time ←
        if mark = 'T' ∨ mark = 't' then some after
        else if isSpaceOrTab mark then some (after.dropWhile isSpaceOrTab)
        else none
      return ⟨date, padded, some (← spelledTime? time)⟩

/-- The spelling stands for a date or moment without being told so: it has a time,
or two digits for month and day. -/
def isPlainDate (cs : List Char) : Bool :=
  match spelledDate? cs with
  | some spelled => spelled.time.isSome || spelled.padded
  | none => false

/-- The first six digits of a fraction, as microseconds. -/
def microseconds (fraction : List Char) : Nat :=
  let digits := fraction.take 6
  (Decimal.natural? 10 (digits ++ List.replicate (6 - digits.length) '0')).getD 0

def SpelledTime.toMoment (time : SpelledTime) (date : Date) : Moment :=
  ⟨date, time.hour, time.minute, time.second, microseconds time.fraction, time.offset⟩

end AddonBindings.Yaml
