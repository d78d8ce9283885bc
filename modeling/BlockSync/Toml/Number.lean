import BlockSync.Decimal.Reading
import BlockSync.Toml.Failure

namespace BlockSync.Toml

/-!
# Numbers

Underscores may stand between digits. An integer can be written in base two, eight or sixteen with
a mark in front and without a sign; no other number begins with a zero and another digit, and a
point has digits on both sides. A number with a point or an exponent is a floating point number,
and so are two words.
-/

/-- The base of a number by the mark in front of it. -/
def baseOf (text : List Char) : Nat :=
  match text with
  | '0' :: 'b' :: _ => 2
  | '0' :: 'o' :: _ => 8
  | '0' :: 'x' :: _ => 16
  | _ => 10

/-- Drops the underscores between digits. The first argument is the character just before. -/
def withoutSeparators (isDigit : Char → Bool) : Option Char → List Char → List Char
  | _, [] => []
  | before, c :: rest =>
      let rest' := withoutSeparators isDigit (some c) rest
      if c = '_' && before.any isDigit && rest.head?.any isDigit then rest' else c :: rest'

/-- Whether the digits of a number may begin as they do. -/
def hasPlainStart (signed : Bool) (digits : List Char) : Bool :=
  let zeroInFront := digits.head? = some '0' &&
    !(digits.drop 1).head?.any fun c => ['.', 'o', 'x', 'b', 'e', 'E'].contains c
  let pointInFront := signed && digits.head? = some '.'
  digits.length ≤ 1 || !(zeroInFront || pointInFront)

/-- Whether a point in a number has no digit after it. -/
def hasBarePoint (base : Nat) (digits : List Char) : Bool :=
  digits.getLast? = some '.' ||
    (base ≠ 16 && (digits.takeWhile (· ≠ 'e')).getLast? = some '.')

/-- The words for infinity and for no number. -/
def numberWords : List (List Char) := ["inf".toList, "nan".toList]

/-- The number that a text stands for. -/
def number? (text : List Char) : Option Value :=
  let (sign, digits) :=
    match text with
    | '+' :: rest => (['+'], rest)
    | '-' :: rest => (['-'], rest)
    | _ => ([], text)
  let base := baseOf digits
  let isDigit := fun c => (Text.digitValue? base c).isSome
  let plain := (withoutSeparators isDigit none digits).map Char.toLower
  if !hasPlainStart (!sign.isEmpty) digits || (base ≠ 10 && !sign.isEmpty) then none
  else if plain.contains '_' || hasBarePoint base plain then none
  else
    match Text.integerIn? base (sign ++ plain) with
    | some value => some (.integer value)
    | none =>
        if plain.contains '.' || plain.contains 'e' || numberWords.contains digits then
          (Decimal.float? (sign ++ plain)).map .float
        else none

end BlockSync.Toml
