import BlockSync.Decimal.Shortest

namespace BlockSync.Decimal

/-!
# Floating point numbers as text

Numbers from a ten-thousandth up to `10 ^ 16` are written positionally with at least one digit
after the point; others with an exponent of at least two digits and a sign.
-/

/-- The digits of a decimal, written positionally or with an exponent. -/
def Scaled.text (decimal : Scaled) : String :=
  let digits := Nat.toDigits 10 decimal.digits
  let point : Int := digits.length + decimal.exponent
  if -4 < point ∧ point ≤ 16 then
    if point ≤ 0 then
      String.ofList ('0' :: '.' :: List.replicate (-point).toNat '0' ++ digits)
    else if digits.length ≤ point then
      String.ofList (digits ++ List.replicate (point.toNat - digits.length) '0' ++ ['.', '0'])
    else
      String.ofList (digits.take point.toNat ++ '.' :: digits.drop point.toNat)
  else
    let fraction := if digits.length ≤ 1 then [] else '.' :: digits.drop 1
    let exponent := Nat.toDigits 10 (point - 1).natAbs
    let exponent := if exponent.length < 2 then '0' :: exponent else exponent
    let sign := if point - 1 < 0 then '-' else '+'
    String.ofList (digits.take 1 ++ fraction ++ 'e' :: sign :: exponent)

/-- The text of a floating point number: the fewest digits that read back as the same number. -/
def floatText (number : Float) : String :=
  let bits := number.toBits.toNat
  let negative := bits / Nat.pow 2 63 == 1
  let biased : Nat := bits / Nat.pow 2 52 % Nat.pow 2 11
  let fraction := bits % Nat.pow 2 52
  let sign := if negative then "-" else ""
  if biased == 2047 then
    if fraction == 0 then sign ++ "inf" else "nan"
  else if biased == 0 then
    if fraction == 0 then sign ++ "0.0"
    else sign ++ (shortest fraction (-1074) false).text
  else
    let mantissa := Nat.pow 2 52 + fraction
    let gapHalves := fraction == 0 && 1 < biased
    sign ++ (shortest mantissa (Int.ofNat biased - 1075) gapHalves).text

/--
The floating point number nearest to `digits · 10 ^ exponent`. Beyond the range of the format the
answer is zero or infinity, whatever the exponent.
-/
def nearestFloat (negative : Bool) (digits : Nat) (exponent : Int) : Float :=
  let magnitude : Int := (Nat.toDigits 10 digits).length + exponent
  let number : Float :=
    if digits == 0 || magnitude < -400 then 0.0
    else if 400 < magnitude then 1.0 / 0.0
    else Float.ofScientific digits (exponent < 0) exponent.natAbs
  if negative then -number else number

end BlockSync.Decimal
