import BlockSync.Decimal.FloatText
import BlockSync.Text.Digit

namespace BlockSync.Decimal

/-!
# Reading floating point numbers

A floating point number is written as digits with an optional point and an optional exponent, or
as a word for infinity or for no number, with an optional sign and blank characters around it.
The digits can be those of any script.
-/

/-- The value of ASCII digits, which may be none. -/
def natOfDigits (digits : List Char) : Nat :=
  digits.foldl (fun value c => 10 * value + (c.toNat - '0'.toNat)) 0

/-- An exponent: the letter, an optional sign, and at least one digit; or nothing at all. -/
def exponent? : List Char → Option Int
  | [] => some 0
  | mark :: rest =>
      if mark = 'e' ∨ mark = 'E' then
        let (negative, digits) :=
          match rest with
          | '-' :: digits => (true, digits)
          | '+' :: digits => (false, digits)
          | _ => (false, rest)
        if digits.isEmpty || !digits.all Char.isDigit then none
        else if negative then some (-Int.ofNat (natOfDigits digits))
        else some (natOfDigits digits)
      else
        none

/-- A number without a sign in digits. -/
def magnitude? (negative : Bool) (text : List Char) : Option Float :=
  let whole := text.takeWhile Char.isDigit
  let rest := text.drop whole.length
  let (fraction, rest) :=
    match rest with
    | '.' :: rest =>
        let fraction := rest.takeWhile Char.isDigit
        (fraction, rest.drop fraction.length)
    | _ => ([], rest)
  if whole.isEmpty && fraction.isEmpty then none
  else
    (exponent? rest).map fun exponent =>
      nearestFloat negative (natOfDigits (whole ++ fraction)) (exponent - fraction.length)

/-- The floating point number that a text is read as. -/
def float? (text : List Char) : Option Float :=
  let text := Text.withPlainDigits (Text.trimNumber text)
  let (negative, body) :=
    match text with
    | '-' :: rest => (true, rest)
    | '+' :: rest => (false, rest)
    | _ => (false, text)
  let word := String.ofList (body.map Char.toLower)
  if word = "inf" ∨ word = "infinity" then some (if negative then -1.0 / 0.0 else 1.0 / 0.0)
  else if word = "nan" then some (0.0 / 0.0)
  else magnitude? negative body

end BlockSync.Decimal
