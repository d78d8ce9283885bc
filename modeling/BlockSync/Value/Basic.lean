import BlockSync.Calendar
import BlockSync.Decimal.FloatText
import BlockSync.Text.Digit
import BlockSync.Text.Raw

namespace BlockSync

/-!
# Configuration values

The values that a configuration can hold, each with two texts: the plain one that goes into a
payload, and the detailed one that shows what kind of value it is. Inside lists and tables every
value shows its detailed text. A value with an integer of too many digits in it has neither.
-/

/--
A configuration value. The keys of a table are distinct and keep their order. A text is broken only
if it was given from outside: no source can spell a surrogate.
-/
inductive Value where
  | null
  | bool (value : Bool)
  | integer (value : Int)
  | float (value : Float)
  | string (value : String)
  | broken (value : BrokenText)
  | dateTime (value : DateTime)
  | date (value : Date)
  | time (value : TimeOfDay)
  | list (items : List Value)
  | table (entries : List (String × Value))
  deriving Inhabited

/-- The entries of a table, in order and with distinct keys. -/
abbrev Table := List (String × Value)

namespace Value

/-- The word for a truth value. -/
def boolText (value : Bool) : String := if value then "True" else "False"

mutual

/-- A value as it shows what kind it is, unless an integer in it has too many digits. -/
def detail? : Value → Option String
  | .null => some "None"
  | .bool value => some (boolText value)
  | .integer value => Text.integerText? value
  | .float value => some (Decimal.floatText value)
  | .string value => some (Text.quoted value)
  | .broken value => some value.raw.quoted
  | .dateTime value => some value.detail
  | .date value => some value.detail
  | .time value => some value.detail
  | .list items => (details? items).map fun texts => "[" ++ ", ".intercalate texts ++ "]"
  | .table entries =>
      (entryDetails? entries).map fun texts => "\x7b" ++ ", ".intercalate texts ++ "\x7d"

/-- The items of a list, each as it shows what kind it is. -/
def details? : List Value → Option (List String)
  | [] => some []
  | item :: others => return (← item.detail?) :: (← details? others)

/-- The entries of a table, each with its quoted key. -/
def entryDetails? : List (String × Value) → Option (List String)
  | [] => some []
  | (key, value) :: others =>
      return (Text.quoted key ++ ": " ++ (← value.detail?)) :: (← entryDetails? others)

end

/-- The plain text of a value: a string is shown as it is. -/
def text? : Value → Option RawText
  | .string value => some value
  | .broken value => some value.raw
  | .dateTime value => some value.text
  | .date value => some value.text
  | .time value => some value.text
  | value => value.detail?.map RawText.ofString

/-- The text of a value in a payload, where truth values are in lower case. -/
def payloadText? : Value → Option RawText
  | .bool value => some (if value then "true" else "false" : String)
  | value => value.text?

/-- Whether a value stands for nothing. -/
def isNull : Value → Bool
  | .null => true
  | _ => false

/-- The strings of a list that holds nothing else. -/
def strings? : List Value → Option (List String)
  | [] => some []
  | .string value :: others => (strings? others).map (value :: ·)
  | _ :: _ => none

end Value

end BlockSync
