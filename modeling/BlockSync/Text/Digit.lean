import BlockSync.Text.Blank
import BlockSync.Text.CodeSet

namespace BlockSync.Text

/-!
# Digits

Decimal digits come in runs of ten, so the value of a digit is its distance from the start of its
run modulo ten. Superscripts and the like are digits without being decimal digits.
-/

/-- Decimal digits of every script, the general category Nd. -/
def decimalDigits : CodeSet := ⟨#[
  0x30, 0x3A, 0x660, 0x66A, 0x6F0, 0x6FA, 0x7C0, 0x7CA, 0x966, 0x970, 0x9E6, 0x9F0, 0xA66,
  0xA70, 0xAE6, 0xAF0, 0xB66, 0xB70, 0xBE6, 0xBF0, 0xC66, 0xC70, 0xCE6, 0xCF0, 0xD66, 0xD70,
  0xDE6, 0xDF0, 0xE50, 0xE5A, 0xED0, 0xEDA, 0xF20, 0xF2A, 0x1040, 0x104A, 0x1090, 0x109A,
  0x17E0, 0x17EA, 0x1810, 0x181A, 0x1946, 0x1950, 0x19D0, 0x19DA, 0x1A80, 0x1A8A, 0x1A90,
  0x1A9A, 0x1B50, 0x1B5A, 0x1BB0, 0x1BBA, 0x1C40, 0x1C4A, 0x1C50, 0x1C5A, 0xA620, 0xA62A,
  0xA8D0, 0xA8DA, 0xA900, 0xA90A, 0xA9D0, 0xA9DA, 0xA9F0, 0xA9FA, 0xAA50, 0xAA5A, 0xABF0,
  0xABFA, 0xFF10, 0xFF1A, 0x104A0, 0x104AA, 0x10D30, 0x10D3A, 0x11066, 0x11070, 0x110F0,
  0x110FA, 0x11136, 0x11140, 0x111D0, 0x111DA, 0x112F0, 0x112FA, 0x11450, 0x1145A, 0x114D0,
  0x114DA, 0x11650, 0x1165A, 0x116C0, 0x116CA, 0x11730, 0x1173A, 0x118E0, 0x118EA, 0x11950,
  0x1195A, 0x11C50, 0x11C5A, 0x11D50, 0x11D5A, 0x11DA0, 0x11DAA, 0x16A60, 0x16A6A, 0x16AC0,
  0x16ACA, 0x16B50, 0x16B5A, 0x1D7CE, 0x1D800, 0x1E140, 0x1E14A, 0x1E2F0, 0x1E2FA, 0x1E950,
  0x1E95A, 0x1FBF0, 0x1FBFA]⟩

/-- Decimal digits and the other characters whose numeric type is digit. -/
def digits : CodeSet := ⟨#[
  0x30, 0x3A, 0xB2, 0xB4, 0xB9, 0xBA, 0x660, 0x66A, 0x6F0, 0x6FA, 0x7C0, 0x7CA, 0x966, 0x970,
  0x9E6, 0x9F0, 0xA66, 0xA70, 0xAE6, 0xAF0, 0xB66, 0xB70, 0xBE6, 0xBF0, 0xC66, 0xC70, 0xCE6,
  0xCF0, 0xD66, 0xD70, 0xDE6, 0xDF0, 0xE50, 0xE5A, 0xED0, 0xEDA, 0xF20, 0xF2A, 0x1040, 0x104A,
  0x1090, 0x109A, 0x1369, 0x1372, 0x17E0, 0x17EA, 0x1810, 0x181A, 0x1946, 0x1950, 0x19D0,
  0x19DB, 0x1A80, 0x1A8A, 0x1A90, 0x1A9A, 0x1B50, 0x1B5A, 0x1BB0, 0x1BBA, 0x1C40, 0x1C4A,
  0x1C50, 0x1C5A, 0x2070, 0x2071, 0x2074, 0x207A, 0x2080, 0x208A, 0x2460, 0x2469, 0x2474,
  0x247D, 0x2488, 0x2491, 0x24EA, 0x24EB, 0x24F5, 0x24FE, 0x24FF, 0x2500, 0x2776, 0x277F,
  0x2780, 0x2789, 0x278A, 0x2793, 0xA620, 0xA62A, 0xA8D0, 0xA8DA, 0xA900, 0xA90A, 0xA9D0,
  0xA9DA, 0xA9F0, 0xA9FA, 0xAA50, 0xAA5A, 0xABF0, 0xABFA, 0xFF10, 0xFF1A, 0x104A0, 0x104AA,
  0x10A40, 0x10A44, 0x10D30, 0x10D3A, 0x10E60, 0x10E69, 0x11052, 0x1105B, 0x11066, 0x11070,
  0x110F0, 0x110FA, 0x11136, 0x11140, 0x111D0, 0x111DA, 0x112F0, 0x112FA, 0x11450, 0x1145A,
  0x114D0, 0x114DA, 0x11650, 0x1165A, 0x116C0, 0x116CA, 0x11730, 0x1173A, 0x118E0, 0x118EA,
  0x11950, 0x1195A, 0x11C50, 0x11C5A, 0x11D50, 0x11D5A, 0x11DA0, 0x11DAA, 0x16A60, 0x16A6A,
  0x16AC0, 0x16ACA, 0x16B50, 0x16B5A, 0x1D7CE, 0x1D800, 0x1E140, 0x1E14A, 0x1E2F0, 0x1E2FA,
  0x1E950, 0x1E95A, 0x1F100, 0x1F10B, 0x1FBF0, 0x1FBFA]⟩

/-- A decimal digit of any script. -/
def isDecimalDigit (c : Char) : Bool :=
  if c.toNat < 0x80 then c.isDigit else decimalDigits.contains c.toNat

/-- A digit of any script, superscripts and circled digits included. -/
def isDigit (c : Char) : Bool :=
  if c.toNat < 0x80 then c.isDigit else digits.contains c.toNat

/-- The value of a decimal digit of any script. -/
def decimalValue? (c : Char) : Option Nat :=
  if isDecimalDigit c then
    some ((c.toNat - decimalDigits.runStart c.toNat) % 10)
  else
    none

/-- The number that a numeral stands for so far, with a further digit. -/
def decimalStep (value : Option Nat) (c : Char) : Option Nat :=
  return 10 * (← value) + (← decimalValue? c)

/-- The value of a numeral in decimal digits of any script, most significant first. -/
def decimalNumber? (digits : List Char) : Option Nat :=
  if digits.isEmpty then none else digits.foldl decimalStep (some 0)

/-- A blank character that may stand around a number: none of the information separators. -/
def isNumberBlank (c : Char) : Bool := isBlank c && !(28 ≤ c.toNat && c.toNat ≤ 31)

/-- Drops what may stand around a number. -/
def trimNumber (text : List Char) : List Char :=
  trimEndWhile isNumberBlank (text.dropWhile isNumberBlank)

/-- A text with the decimal digits of every script written as ASCII digits. -/
def withPlainDigits (text : List Char) : List Char :=
  text.map fun c => ((decimalValue? c).map Nat.digitChar).getD c

/-- The value of a digit in a base up to sixteen, in lower or upper case. -/
def digitValue? (base : Nat) (c : Char) : Option Nat :=
  let value :=
    if c.isDigit then c.toNat - '0'.toNat
    else if 'a' ≤ c ∧ c ≤ 'f' then 10 + (c.toNat - 'a'.toNat)
    else if 'A' ≤ c ∧ c ≤ 'F' then 10 + (c.toNat - 'A'.toNat)
    else base
  if value < base then some value else none

/-- The values of digits in groups separated by single underscores. -/
def ungrouped? (base : Nat) : List Char → Option (List Nat)
  | [] => none
  | [c] => (digitValue? base c).map ([·])
  | c :: '_' :: rest => return (← digitValue? base c) :: (← ungrouped? base rest)
  | c :: rest => return (← digitValue? base c) :: (← ungrouped? base rest)

/-- The most decimal digits that a written integer can have. -/
def digitLimit : Nat := 4300

/-- What is said of an integer with too many digits, and how many it is written with if it is. -/
def digitLimitExceeded (count : Option Nat) : String :=
  let subject :=
    match count with
    | none => ""
    | some count => ": value has " ++ toString count ++ " digits"
  "Exceeds the limit (" ++ toString digitLimit ++ " digits) for integer string conversion" ++
    subject ++ "; use sys.set_int_max_str_digits() to increase the limit"

/-- What is said of an integer that is written with too many digits. -/
def tooManyDigits (count : Nat) : String := digitLimitExceeded (some count)

/-- An integer in decimal digits, unless they are too many. -/
def integerText? (value : Int) : Option String :=
  if value.natAbs < Nat.pow 10 digitLimit then some (toString value) else none

/-- What may stand in front of the digits of a base. -/
def basePrefixes (base : Nat) : List (List Char) :=
  match base with
  | 2 => [['0', 'b'], ['0', 'B']]
  | 8 => [['0', 'o'], ['0', 'O']]
  | 16 => [['0', 'x'], ['0', 'X']]
  | _ => []

/-- A numeral without the mark of its base and an underscore after it. -/
def withoutBasePrefix (base : Nat) (text : List Char) : List Char :=
  if (basePrefixes base).contains (text.take 2) then
    let rest := text.drop 2
    if rest.head? = some '_' then rest.drop 1 else rest
  else
    text

/--
The value of an integer written in base two, eight, ten or sixteen: blank characters around it, an
optional sign, an optional mark of a base other than ten, and digits in groups separated by single
underscores. Decimal digits can be those of any script; in base ten their number is limited.
-/
def integerIn? (base : Nat) (text : List Char) : Option Int := do
  let text := withPlainDigits (trimNumber text)
  let (negative, numeral) :=
    match text with
    | '-' :: rest => (true, rest)
    | '+' :: rest => (false, rest)
    | _ => (false, text)
  let digits ← ungrouped? base (withoutBasePrefix base numeral)
  if base = 10 ∧ digitLimit < digits.length then none
  let value := digits.foldl (fun value digit => base * value + digit) 0
  return if negative then -Int.ofNat value else Int.ofNat value

/-- The value of an integer written in base ten. -/
def integer? (text : List Char) : Option Int := integerIn? 10 text

end BlockSync.Text
