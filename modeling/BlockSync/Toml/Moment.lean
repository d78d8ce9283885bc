import BlockSync.Decimal.Reading
import BlockSync.Toml.Failure

namespace BlockSync.Toml

/-!
# Dates and times

A date is a year, a month and a day between hyphens; a time is an hour and a minute between colons
and may go on with a second and its fraction; the two are joined by a letter or a space, and then an
offset from universal time may follow. A text of this form that names no day or time is refused.
-/

/-- The number in two digits, if it is in a range. -/
def twoDigits? (low high : Nat) : List Char → Option (Nat × List Char)
  | a :: b :: rest =>
      if a.isDigit && b.isDigit then
        let value := Decimal.natOfDigits [a, b]
        if low ≤ value && value ≤ high then some (value, rest) else none
      else
        none
  | _ => none

/-- A character that must come next. -/
def expect? (allowed : List Char) : List Char → Option (Char × List Char)
  | c :: rest => if allowed.contains c then some (c, rest) else none
  | [] => none

/-- A date in a text, with four digits for the year. -/
def dateAt? (text : List Char) : Option (Date × List Char) := do
  let year := text.takeWhile Char.isDigit
  if year.length ≠ 4 then none
  let (_, rest) ← expect? ['-'] (text.drop year.length)
  let (month, rest) ← twoDigits? 1 12 rest
  let (_, rest) ← expect? ['-'] rest
  let (day, rest) ← twoDigits? 1 31 rest
  return (⟨Decimal.natOfDigits year, month, day⟩, rest)

/-- The microseconds that a fraction of a second stands for; further digits are dropped. -/
def microseconds (digits : List Char) : Nat :=
  let digits := digits.take 6
  Decimal.natOfDigits digits * Nat.pow 10 (6 - digits.length)

/-- A fraction of a second in a text, which may be missing. -/
def fractionAt? (text : List Char) : Option (Nat × List Char) :=
  match text with
  | '.' :: rest =>
      let digits := rest.takeWhile Char.isDigit
      if digits.isEmpty then none else some (microseconds digits, rest.drop digits.length)
  | _ => some (0, text)

/-- A second with its fraction in a text, from the colon on, which may be missing. -/
def secondAt? (text : List Char) : Option ((Nat × Nat) × List Char) :=
  match text with
  | ':' :: rest => do
      let (second, rest) ← twoDigits? 0 60 rest
      let (microsecond, rest) ← fractionAt? rest
      return ((second, microsecond), rest)
  | _ => some ((0, 0), text)

/-- A time in a text. -/
def timeAt? (text : List Char) : Option (TimeOfDay × List Char) := do
  let (hour, rest) ← twoDigits? 0 23 text
  let (_, rest) ← expect? [':'] rest
  let (minute, rest) ← twoDigits? 0 59 rest
  let ((second, microsecond), rest) ← secondAt? rest
  return (⟨hour, minute, second, microsecond⟩, rest)

/-- An offset in a text, which may be missing. -/
def zoneAt? (text : List Char) : Option (Option ZoneOffset × List Char) :=
  match text with
  | [] => some (none, [])
  | mark :: rest =>
      if mark = 'Z' || mark = 'z' then some (some ⟨0, "UTC"⟩, rest)
      else do
        let (sign, rest) ← expect? ['+', '-'] text
        let (hours, rest) ← twoDigits? 0 23 rest
        let (_, rest) ← expect? [':'] rest
        let (minutes, rest) ← twoDigits? 0 59 rest
        let offset : Int := 60 * hours + minutes
        let name := String.singleton sign ++ paddedNumber 2 hours ++ ":" ++ paddedNumber 2 minutes
        return (some ⟨if sign = '-' then -offset else offset, name⟩, rest)

/-- A date with a time that make up a whole text. -/
def dateTime? (text : List Char) : Option DateTime := do
  let (date, rest) ← dateAt? text
  let (_, rest) ← expect? ['T', 't', ' '] rest
  let (time, rest) ← timeAt? rest
  let (zone, rest) ← zoneAt? rest
  if rest.isEmpty then some ⟨date, time, zone⟩ else none

/-- A date that makes up a whole text. -/
def date? (text : List Char) : Option Date :=
  match dateAt? text with
  | some (date, []) => some date
  | _ => none

/-- A time that makes up a whole text. -/
def time? (text : List Char) : Option TimeOfDay :=
  match timeAt? text with
  | some (time, []) => some time
  | _ => none

/-- Refuses a date that is not in the calendar. -/
def checkDate (date : Date) : Except Failure Unit :=
  if date.isValid then .ok () else refuse .invalidMoment

/-- The date with a time that a whole text must be. -/
def dateTime (text : List Char) : Except Failure Value :=
  match dateTime? text with
  | none => refuse .invalidMoment
  | some moment => do
      checkDate moment.date
      if moment.time.isValid then return .dateTime moment else refuse .invalidMoment

/-- The value of a text that has the form of a date or a time. -/
def moment? (text : List Char) : Except Failure (Option Value) := do
  if (dateTime? text).isSome then
    return some (← dateTime text)
  match date? text, time? text with
  | some date, _ => do
      checkDate date
      return some (.date date)
  | none, some time =>
      if time.isValid then return some (.time time) else refuse .invalidMoment
  | none, none => return none

end BlockSync.Toml
