import AddonBindings.Calendar
import AddonBindings.Decimal.Shortest

/-!
Contract: the values that a configuration document can hold.

Owns:
- the type of values, with mappings and sets in insertion order;
- which values count as empty;
- equality of mapping keys and access to a mapping by a text key.

Does not own: how values are spelled in documents or in messages.
-/

namespace AddonBindings

/-- A value read from a document. -/
inductive Datum where
  | null
  | bool (value : Bool)
  | int (value : Int)
  | float (value : Float)
  | text (value : String)
  | bytes (value : List UInt8)
  | date (value : Date)
  | moment (value : Moment)
  | sequence (items : List Datum)
  | mapping (entries : List (Datum × Datum))
  | set (members : List Datum)
  /-- An ordered pair, as kept in a list of pairs. -/
  | pair (first second : Datum)
  /-- Stands for a sequence that contains this place. -/
  | enclosingSequence
  /-- Stands for a mapping that contains this place. -/
  | enclosingMapping
deriving Repr, Inhabited

namespace Datum

/-- The value counts as absent where a default may take its place: null, false,
zero and every empty text or collection. -/
def isEmpty : Datum → Bool
  | null => true
  | bool value => !value
  | int value => value == 0
  | float value => Decimal.isZero value
  | text value => value.isEmpty
  | bytes value => value.isEmpty
  | sequence items => items.isEmpty
  | mapping entries => entries.isEmpty
  | set members => members.isEmpty
  | date _ | moment _ | pair _ _ | enclosingSequence | enclosingMapping => false

/-- The number that a truth value or a number stands for. -/
def numeric? : Datum → Option Float
  | bool value => some (if value then 1.0 else 0.0)
  | int value => some (Float.ofInt value)
  | float value => some value
  | _ => none

/-- Seconds since the start of the calendar, less the offset. -/
def universalSeconds (moment : Moment) : Int :=
  let year := moment.date.year - 1
  let months := (List.range (moment.date.month - 1)).foldl
    (fun days index => days + Date.daysInMonth moment.date.year (index + 1)) 0
  let days := year * 365 + year / 4 - year / 100 + year / 400 + months + moment.date.day
  Int.ofNat (days * 86400 + moment.hour * 3600 + moment.minute * 60 + moment.second) -
    moment.offset.getD 0

/-- Two keys are the same.  Truth values and numbers are compared as numbers;
moments with a known offset as points in time. -/
def sameKey : Datum → Datum → Bool
  | null, null => true
  | text left, text right => left == right
  | bytes left, bytes right => left == right
  | date left, date right => left == right
  | moment left, moment right =>
      left.offset.isSome == right.offset.isSome &&
        left.microsecond == right.microsecond && universalSeconds left == universalSeconds right
  | int left, int right => left == right
  | left, right =>
      match left.numeric?, right.numeric? with
      | some first, some second => first == second
      | _, _ => false

/-- Entries with the value under `key` replaced, or with a new entry at the end.
A key keeps its first spelling and its place. -/
def putEntry (entries : List (Datum × Datum)) (key value : Datum) : List (Datum × Datum) :=
  match entries with
  | [] => [(key, value)]
  | (known, old) :: rest =>
      if known.sameKey key then (known, value) :: rest
      else (known, old) :: putEntry rest key value

def lookup? (entries : List (Datum × Datum)) (key : String) : Option Datum :=
  (entries.find? fun entry => entry.1.sameKey (.text key)).map (·.2)

end Datum

end AddonBindings
