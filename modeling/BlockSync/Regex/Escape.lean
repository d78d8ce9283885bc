import BlockSync.Regex.Scanner
import BlockSync.Text.CharacterName

namespace BlockSync.Regex

/-!
# Escapes

What a backslash and the characters after it stand for, inside a set and outside of one.
-/

/-- An octal digit. -/
def isOctalDigit (c : Char) : Bool := '0' ≤ c && c ≤ '7'

/-- A hexadecimal digit. -/
def isHexDigit (c : Char) : Bool :=
  c.isDigit || ('a' ≤ c && c ≤ 'f') || ('A' ≤ c && c ≤ 'F')

/-- The value of a hexadecimal digit. -/
def hexDigitValue (c : Char) : Nat :=
  if c.isDigit then c.toNat - '0'.toNat
  else if 'a' ≤ c then c.toNat - 'a'.toNat + 10
  else c.toNat - 'A'.toNat + 10

/-- The value of digits in a base. -/
def valueOfDigits (base : Nat) (digits : List Char) : Nat :=
  digits.foldl (fun value c => value * base + hexDigitValue c) 0

/-- The control character that a letter after a backslash stands for. -/
def controlEscape? : Char → Option Nat
  | 'a' => some 7
  | 'b' => some 8
  | 'f' => some 12
  | 'n' => some 10
  | 'r' => some 13
  | 't' => some 9
  | 'v' => some 11
  | '\\' => some 0x5C
  | _ => none

/-- The category that a letter after a backslash stands for. -/
def categoryEscape? (asciiOnly : Bool) : Char → Option CategoryTest
  | 'd' => some ⟨.digit, false, asciiOnly⟩
  | 'D' => some ⟨.digit, true, asciiOnly⟩
  | 's' => some ⟨.blank, false, asciiOnly⟩
  | 'S' => some ⟨.blank, true, asciiOnly⟩
  | 'w' => some ⟨.word, false, asciiOnly⟩
  | 'W' => some ⟨.word, true, asciiOnly⟩
  | _ => none

/-- The condition that a letter after a backslash stands for. -/
def placeEscape? (asciiOnly : Bool) : Char → Option Place
  | 'A' => some .textStart
  | 'Z' => some .textEnd
  | 'b' => some (.wordBoundary asciiOnly)
  | 'B' => some (.insideOrOutsideWord asciiOnly)
  | _ => none

namespace Reader

/-- A code point written with exactly a number of hexadecimal digits. -/
def hexEscape (letter : Char) (digits : Nat) : Reader Nat := do
  let taken ← takeWhile isHexDigit digits
  let escape := '\\' :: letter :: taken
  if taken.length < digits then
    fail (.incompleteEscape (String.ofList escape)) escape.length
  let code := valueOfDigits 16 taken
  if 0x10FFFF < code then
    fail (.badEscape (String.ofList escape)) escape.length
  return code

/-- A code point given by the name of a character between braces. -/
def namedEscape : Reader Nat := do
  if !(← accept '\x7b') then fail .missingBrace 0
  let name ← takeName '\x7d' .character (← tokenLimit) []
  match Text.codeOfName? name with
  | some code => return code
  | none => fail (.undefinedCharacter (String.ofList name)) (name.length + 4)

/-- A backslash and another character that stands for itself. -/
def plainEscape (c : Char) : Reader Nat := do
  if c.isAlphanum then fail (.badEscape (String.ofList ['\\', c])) 2 else return c.toNat

/-- The escapes with digits that mean the same inside and outside of a set. -/
def codeEscape? (c : Char) : Reader (Option Nat) := do
  match c with
  | 'x' => return some (← hexEscape 'x' 2)
  | 'u' => return some (← hexEscape 'u' 4)
  | 'U' => return some (← hexEscape 'U' 8)
  | 'N' => return some (← namedEscape)
  | _ => return none

/-- The code point of octal digits after a backslash, at most octal 377. -/
def octalCode (digits : List Char) : Reader Nat := do
  let code := valueOfDigits 8 digits
  if 0o377 < code then
    let escape := '\\' :: digits
    fail (.octalTooLarge (String.ofList escape)) escape.length
  return code

/-- The set item that an escape inside a set stands for. -/
def setEscape (asciiOnly : Bool) (c : Char) : Reader SetItem := do
  match controlEscape? c, categoryEscape? asciiOnly c with
  | some code, _ => return .one code
  | none, some category => return .category category
  | none, none =>
      match ← codeEscape? c with
      | some code => return .one code
      | none =>
          if isOctalDigit c then
            let more ← takeWhile isOctalDigit 2
            return .one (← octalCode (c :: more))
          else
            return .one (← plainEscape c)

/-- Whether a group is complete. -/
def isClosed (index : Nat) : Reader Bool := do
  return ((← get).groups.getD index none).isSome

/-- Refuses, inside a look-behind, a group that is open or was begun within it. -/
def checkLookBehindGroup (index : Nat) : Reader Unit := do
  match (← get).lookBehindGroups with
  | none => return ()
  | some known =>
      if !(← isClosed index) then fail .openGroup 0
      if known ≤ index then fail .groupInsideLookBehind 0

/-- A reference back to a complete group; `back` leads to the start of the reference. -/
def backReference (casing : Casing) (index back : Nat) : Reader Node := do
  if !(← isClosed index) then fail .openGroup back
  checkLookBehindGroup index
  let width := ((← get).groups.getD index none).getD ⟨0, 0⟩
  return .backReference index casing width

/-- The pattern that a backslash and a digit other than zero stand for. -/
def digitEscape (casing : Casing) (c : Char) : Reader Node := do
  let reference := fun (digits : List Char) => do
    let index := valueOfDigits 10 digits
    if index < (← get).groups.length then
      backReference casing index (digits.length + 1)
    else
      fail (.invalidGroup index) digits.length
  match ← peek with
  | some (.plain second) =>
      if second.isDigit then
        let _ ← take
        let octal :=
          match ← peek with
          | some (.plain third) =>
              if isOctalDigit c && isOctalDigit second && isOctalDigit third then some third
              else none
          | _ => none
        match octal with
        | some third =>
            let _ ← take
            return .char (.ofLiteral casing false (← octalCode [c, second, third]))
        | none => reference [c, second]
      else
        reference [c]
  | _ => reference [c]

/-- The pattern that an escape outside of a set stands for. -/
def escape (asciiOnly : Bool) (casing : Casing) (c : Char) : Reader Node := do
  match placeEscape? asciiOnly c, categoryEscape? asciiOnly c, controlEscape? c with
  | some place, _, _ => return .place place
  | none, some category, _ => return .char (.ofItems casing false [.category category])
  | none, none, some code => return .char (.ofLiteral casing false code)
  | none, none, none =>
      match ← codeEscape? c with
      | some code => return .char (.ofLiteral casing false code)
      | none =>
          if c = '0' then
            let more ← takeWhile isOctalDigit 2
            return .char (.ofLiteral casing false (valueOfDigits 8 more))
          else if c.isDigit then
            digitEscape casing c
          else
            return .char (.ofLiteral casing false (← plainEscape c))

end Reader

end BlockSync.Regex
