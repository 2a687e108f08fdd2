/-!
Contract: calendar dates and times of day.

Owns:
- dates and moments with their ranges;
- offsets from universal time;
- which part is out of range first, and the wording of that fault.

Does not own: how dates are spelled in a document.
-/

namespace AddonBindings

/-- What is out of range in a date, a time of day or an offset. -/
inductive CalendarFault where
  | year (value : Nat)
  | month
  | day
  | hour
  | minute
  | second
  /-- An offset of a day or more, in seconds. -/
  | offset (seconds : Int)
deriving DecidableEq, Repr

/-- A day of the proleptic Gregorian calendar. -/
structure Date where
  year : Nat
  month : Nat
  day : Nat
deriving DecidableEq, Repr

/-- A day and a time of day, with the offset from universal time in seconds if
one is known. -/
structure Moment where
  date : Date
  hour : Nat
  minute : Nat
  second : Nat
  microsecond : Nat
  offset : Option Int
deriving DecidableEq, Repr

/-- A length of time in whole seconds: days if there are any, then seconds of the
day if there are any. -/
def writtenDuration (seconds : Int) : String :=
  let days := Int.fdiv seconds 86400
  let rest := Int.fmod seconds 86400
  let parts :=
    (if days = 0 then [] else ["days=" ++ toString days]) ++
      (if rest = 0 then [] else ["seconds=" ++ toString rest])
  "datetime.timedelta(" ++ (if parts.isEmpty then "0" else String.intercalate ", " parts) ++ ")"

def CalendarFault.message : CalendarFault → String
  | year value => "year " ++ toString value ++ " is out of range"
  | month => "month must be in 1..12"
  | day => "day is out of range for month"
  | hour => "hour must be in 0..23"
  | minute => "minute must be in 0..59"
  | second => "second must be in 0..59"
  | offset seconds =>
      "offset must be a timedelta strictly between -timedelta(hours=24) and " ++
        "timedelta(hours=24), not " ++ writtenDuration seconds ++ "."

namespace Date

/-- A year with a twenty-ninth of February. -/
def isLeapYear (year : Nat) : Bool :=
  year % 4 == 0 && (year % 100 != 0 || year % 400 == 0)

def daysInMonth (year month : Nat) : Nat :=
  if month = 2 then (if isLeapYear year then 29 else 28)
  else if month = 4 ∨ month = 6 ∨ month = 9 ∨ month = 11 then 30
  else 31

/-- The date, if year, month and day are in range; they are checked in this order. -/
def check (date : Date) : Except CalendarFault Date :=
  if date.year < 1 ∨ 9999 < date.year then .error (.year date.year)
  else if date.month < 1 ∨ 12 < date.month then .error .month
  else if date.day < 1 ∨ daysInMonth date.year date.month < date.day then .error .day
  else .ok date

def written (date : Date) : String :=
  "datetime.date(" ++ toString date.year ++ ", " ++ toString date.month ++ ", " ++
    toString date.day ++ ")"

end Date

/-- The offset, if it is shorter than a day in either direction. -/
def checkOffset (seconds : Int) : Except CalendarFault Int :=
  if 86400 ≤ seconds.natAbs then .error (.offset seconds) else .ok seconds

namespace Moment

/-- The moment, if its parts are in range; the offset is checked first, then the
date, then the time of day. -/
def check (moment : Moment) : Except CalendarFault Moment := do
  if let some seconds := moment.offset then
    let _ ← checkOffset seconds
  let _ ← moment.date.check
  if 23 < moment.hour then .error .hour
  else if 59 < moment.minute then .error .minute
  else if 59 < moment.second then .error .second
  else .ok moment

def writtenOffset (seconds : Int) : String :=
  if seconds = 0 then "datetime.timezone.utc"
  else "datetime.timezone(" ++ writtenDuration seconds ++ ")"

/-- The written form of a moment.  Seconds and microseconds are left out when
they and all that follows are zero. -/
def written (moment : Moment) : String :=
  let tail :=
    if moment.microsecond ≠ 0 then [moment.second, moment.microsecond]
    else if moment.second ≠ 0 then [moment.second]
    else []
  let parts :=
    [moment.date.year, moment.date.month, moment.date.day, moment.hour, moment.minute] ++ tail
  let zone :=
    match moment.offset with
    | none => []
    | some seconds => ["tzinfo=" ++ writtenOffset seconds]
  "datetime.datetime(" ++ String.intercalate ", " (parts.map toString ++ zone) ++ ")"

end Moment

end AddonBindings
