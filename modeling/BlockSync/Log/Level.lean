import BlockSync.Text.Blank
import BlockSync.Text.Digit
import BlockSync.Text.Quoted

namespace BlockSync

/-!
# Log levels

Levels of importance are numbers, some of which have names. A level is asked for by a name in any
case or by a number in decimal digits; the letters of other scripts that have an ASCII letter as
their capital count as that letter. A number given outright may be negative.
-/

/-- A level of importance. -/
abbrev LogLevel := Int

namespace LogLevel

/-- Everything is recorded. -/
def all : LogLevel := 0
/-- The least level with a name. -/
def trace : LogLevel := 5
/-- Decisions that help to find a mistake. -/
def debug : LogLevel := 10
/-- Information. -/
def info : LogLevel := 20
/-- Warnings. -/
def warning : LogLevel := 30
/-- Failures of a part. -/
def error : LogLevel := 40
/-- Failures of the whole. -/
def critical : LogLevel := 50

/-- The level that a name in capitals stands for. -/
def ofName? : String → Option LogLevel
  | "TRACE" => some trace
  | "DEBUG" => some debug
  | "INFO" => some info
  | "WARNING" | "WARN" => some warning
  | "ERROR" => some error
  | "CRITICAL" | "FATAL" => some critical
  | "NOTSET" => some all
  | _ => none

/-- The name of a level. -/
def name (level : LogLevel) : String :=
  if level = all then "NOTSET"
  else if level = trace then "TRACE"
  else if level = debug then "DEBUG"
  else if level = info then "INFO"
  else if level = warning then "WARNING"
  else if level = error then "ERROR"
  else if level = critical then "CRITICAL"
  else "Level " ++ toString level

/-- The capitals of a character, as far as they are ASCII letters. -/
def capitals (c : Char) : List Char :=
  if c.toNat < 0x80 then [c.toUpper]
  else
    match c.toNat with
    | 0x131 => ['I']
    | 0x17F => ['S']
    | 0xDF => ['S', 'S']
    | 0xFB00 => ['F', 'F']
    | 0xFB01 => ['F', 'I']
    | 0xFB02 => ['F', 'L']
    | 0xFB03 => ['F', 'F', 'I']
    | 0xFB04 => ['F', 'F', 'L']
    | 0xFB05 => ['S', 'T']
    | 0xFB06 => ['S', 'T']
    | _ => [c]

/-- A number that stands for no level. -/
inductive NumberError where
  | notDecimal (digits : String)
  | tooLong (digits : Nat)
  deriving Repr, DecidableEq

/-- The message of a number that stands for no level. -/
def NumberError.message : NumberError → String
  | .notDecimal digits => "invalid literal for int() with base 10: " ++ Text.quoted digits
  | .tooLong count => Text.tooManyDigits count

/-- The level that a text asks for, if it asks for one. -/
def parse (text : String) : Except NumberError (Option LogLevel) :=
  let word := (Text.trim text.toList).flatMap capitals
  if word.isEmpty then
    .ok none
  else if word.all Text.isDigit then
    match Text.decimalNumber? word with
    | none => .error (.notDecimal (String.ofList word))
    | some level =>
        if Text.digitLimit < word.length then .error (.tooLong word.length) else .ok (some level)
  else
    .ok (ofName? (String.ofList word))

end LogLevel

end BlockSync
