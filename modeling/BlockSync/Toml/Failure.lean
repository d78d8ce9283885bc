import BlockSync.Toml.Section

namespace BlockSync.Toml

/-!
# What can be wrong with a document

A document can break the rules of the notation, or its definitions can clash below a header or
when the document is complete. Reading a part of a text gives that part and the text after it.
-/

/-- What breaks the rules of the notation. -/
inductive Defect where
  | unexpected
  | endOfText
  | controlCharacter
  | invalidEscape
  | tooManyQuotes
  | emptyKey
  | invalidKey
  | invalidNumber
  | invalidMoment
  | tooDeep
  | clashing (clash : Clash)
  deriving Repr, DecidableEq

/-- Why reading stopped. -/
inductive Failure where
  | defect (defect : Defect)
  | clash (clash : Clash)
  deriving Repr, DecidableEq

/-- The message of a clash. -/
def Clash.message : Clash → String
  | .keyExists key => "Key \"" ++ key ++ "\" already exists."
  | .redefinition => "Redefinition of an existing table"

/-- The message of a defect. -/
def Defect.message : Defect → String
  | .unexpected => "unexpected character"
  | .endOfText => "unexpected end of text"
  | .controlCharacter => "control characters must be escaped"
  | .invalidEscape => "invalid escape"
  | .tooManyQuotes => "too many quotes"
  | .emptyKey => "empty key"
  | .invalidKey => "invalid key"
  | .invalidNumber => "invalid number"
  | .invalidMoment => "invalid date or time"
  | .tooDeep => "too deep"
  | .clashing clash => clash.message

/-- Stops with a defect. -/
def refuse (defect : Defect) : Except Failure α := .error (.defect defect)

/-- How deep tables and arrays can be nested in a value, and how many parts a key can have. -/
def nestingLimit : Nat := 100

end BlockSync.Toml
