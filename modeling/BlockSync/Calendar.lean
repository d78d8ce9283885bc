namespace BlockSync

/-!
# Dates and times

Dates of the proleptic Gregorian calendar and times of day to the microsecond, with or without an
offset from universal time. Each has a plain text and a detailed one that names its parts.
-/

/-- A number with at least a given number of digits. -/
def paddedNumber (width value : Nat) : String :=
  let digits := Nat.toDigits 10 value
  String.ofList (List.replicate (width - digits.length) '0' ++ digits)

/-- A date. -/
structure Date where
  year : Nat
  month : Nat
  day : Nat
  deriving Repr, DecidableEq

/-- A time of day. -/
structure TimeOfDay where
  hour : Nat
  minute : Nat
  second : Nat
  microsecond : Nat
  deriving Repr, DecidableEq

/-- An offset from universal time, east of it when positive, with the name it was given by. -/
structure ZoneOffset where
  minutes : Int
  name : String
  deriving Repr, DecidableEq

/-- A date with a time of day. -/
structure DateTime where
  date : Date
  time : TimeOfDay
  zone : Option ZoneOffset
  deriving Repr, DecidableEq

namespace Date

/-- A year with a twenty-ninth of February. -/
def isLeapYear (year : Nat) : Bool :=
  year % 4 == 0 && (year % 100 != 0 || year % 400 == 0)

/-- The number of days of a month. -/
def daysInMonth (year month : Nat) : Nat :=
  if month == 2 then if isLeapYear year then 29 else 28
  else if [4, 6, 9, 11].contains month then 30
  else 31

/-- The dates of the years one to 9999. -/
def isValid (date : Date) : Bool :=
  1 ≤ date.year && date.year ≤ 9999 && 1 ≤ date.month && date.month ≤ 12 &&
    1 ≤ date.day && date.day ≤ daysInMonth date.year date.month

/-- Year, month and day between hyphens. -/
def text (date : Date) : String :=
  paddedNumber 4 date.year ++ "-" ++ paddedNumber 2 date.month ++ "-" ++ paddedNumber 2 date.day

/-- The parts of a date. -/
def parts (date : Date) : List Nat := [date.year, date.month, date.day]

/-- A date with its type and parts. -/
def detail (date : Date) : String :=
  "datetime.date(" ++ ", ".intercalate (date.parts.map toString) ++ ")"

end Date

namespace TimeOfDay

/-- A time within a day, without leap seconds. -/
def isValid (time : TimeOfDay) : Bool :=
  time.hour ≤ 23 && time.minute ≤ 59 && time.second ≤ 59 && time.microsecond ≤ 999999

/-- Hour, minute and second between colons, and the microseconds unless there are none. -/
def text (time : TimeOfDay) : String :=
  paddedNumber 2 time.hour ++ ":" ++ paddedNumber 2 time.minute ++ ":" ++
    paddedNumber 2 time.second ++
    if time.microsecond = 0 then "" else "." ++ paddedNumber 6 time.microsecond

/-- The parts of a time, without seconds and microseconds that are zero at the end. -/
def parts (time : TimeOfDay) : List Nat :=
  if time.microsecond ≠ 0 then [time.hour, time.minute, time.second, time.microsecond]
  else if time.second ≠ 0 then [time.hour, time.minute, time.second]
  else [time.hour, time.minute]

/-- A time with its type and parts. -/
def detail (time : TimeOfDay) : String :=
  "datetime.time(" ++ ", ".intercalate (time.parts.map toString) ++ ")"

end TimeOfDay

namespace ZoneOffset

/-- Sign, hours and minutes. -/
def text (zone : ZoneOffset) : String :=
  let minutes := zone.minutes.natAbs
  (if zone.minutes < 0 then "-" else "+") ++ paddedNumber 2 (minutes / 60) ++ ":" ++
    paddedNumber 2 (minutes % 60)

/-- An offset as days and seconds; the seconds are never negative. -/
def durationDetail (zone : ZoneOffset) : String :=
  if zone.minutes = 0 then
    "datetime.timedelta(0)"
  else if zone.minutes < 0 then
    "datetime.timedelta(days=-1, seconds=" ++ toString (86400 + 60 * zone.minutes) ++ ")"
  else
    "datetime.timedelta(seconds=" ++ toString (60 * zone.minutes) ++ ")"

/-- An offset with its type and name. -/
def detail (zone : ZoneOffset) : String :=
  "datetime.timezone(" ++ zone.durationDetail ++ ", '" ++ zone.name ++ "')"

end ZoneOffset

namespace DateTime

/-- The date, a space, the time, and the offset if there is one. -/
def text (moment : DateTime) : String :=
  moment.date.text ++ " " ++ moment.time.text ++
    match moment.zone with
    | none => ""
    | some zone => zone.text

/-- A date with a time, with its type and parts. -/
def detail (moment : DateTime) : String :=
  let zone := match moment.zone with
    | none => ""
    | some zone => ", tzinfo=" ++ zone.detail
  "datetime.datetime(" ++
    ", ".intercalate ((moment.date.parts ++ moment.time.parts).map toString) ++ zone ++ ")"

end DateTime

end BlockSync
