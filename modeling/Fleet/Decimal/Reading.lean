import Fleet.Decimal.Double

/-! # Decimals read as binary64 numbers

A decimal is read in the quick way, which need not give the nearest binary64 number.  Its digits are
gathered in 64 bits, those that no longer fit only count; what was gathered is rounded, and then
multiplied or divided by a power of ten that was rounded itself.  A power of ten beyond the largest
one is divided by in pieces. -/

namespace Fleet.Decimal

/-- The least number that 64 bits do not hold. -/
def wordLimit : Nat := 18446744073709551616

/-- The greatest power of ten below the largest binary64 number. -/
def greatestTen : Nat := 308

/-- Appends digits to a significand as long as it fits 64 bits, and gives the digits left. -/
def takeDigits (significand : Nat) : List Char → Nat × List Char
  | [] => (significand, [])
  | c :: cs =>
    let next := significand * 10 + (c.toNat - '0'.toNat)
    if next < wordLimit then takeDigits next cs else (significand, c :: cs)

namespace Double

/-- The binary64 number nearest to a power of ten. -/
def ten? (n : Nat) : Option Double := nearest? false (Nat.pow 10 n) 1

/-- The number divided by the greatest power of ten again and again, at most `n` times; zero stays. -/
def lower? : Nat → Double → Option Double
  | 0, d => some d
  | n + 1, d => if d.significand = 0 then some d else (ten? greatestTen).bind d.over? >>= lower? n

/-- What is read for `significand * 10 ^ exponent`; `none` beyond the largest number. -/
def ofParts? (negative : Bool) (significand : Nat) (exponent : Int) : Option Double := do
  let d ← nearest? negative significand 1
  if exponent < 0 then
    let places := (-exponent).toNat - 1
    let d ← lower? (places / greatestTen) d
    d.over? (← ten? (places % greatestTen + 1))
  else if exponent ≤ greatestTen then d.times? (← ten? exponent.toNat)
  else if significand = 0 then some d
  else none

/-- What is read for the digits before and behind the point, times a power of ten.  The digits left
before the point raise the power, and those behind it may still be gathered. -/
def ofDigits? (negative : Bool) (whole fraction : List Char) (exponent : Int) : Option Double :=
  let (significand, more) := takeDigits 0 whole
  let (significand, left) := takeDigits significand fraction
  ofParts? negative significand (exponent + more.length - (fraction.length - left.length : Nat))

end Double

end Fleet.Decimal
