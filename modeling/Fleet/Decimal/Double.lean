/-! # Finite binary64 numbers

A `Double` is a sign, a significand and a binary exponent in the one form that binary64 stores.  A
fraction rounds to the nearest such number, a half to the even significand, in exact arithmetic on
natural numbers; beyond the largest one there is none.  Products and quotients round the exact ones. -/

namespace Fleet.Decimal

/-- The least significand of 53 bits. -/
def leastFull : Nat := 4503599627370496

/-- Significand and exponent are those of a binary64 number: 53 bits, normalised unless the
exponent is the least one. -/
def IsCanonical (significand : Nat) (exponent : Int) : Prop :=
  significand < 2 * leastFull ∧ -1074 ≤ exponent ∧ exponent ≤ 971 ∧
    (leastFull ≤ significand ∨ exponent = -1074)

instance (m : Nat) (q : Int) : Decidable (IsCanonical m q) :=
  inferInstanceAs (Decidable (_ ∧ _ ∧ _ ∧ (_ ∨ _)))

/-- The binary64 number `significand * 2 ^ exponent`, with a sign. -/
structure Double where
  /-- Whether the sign is minus; zero has both signs. -/
  negative : Bool
  /-- The bits of the number. -/
  significand : Nat
  /-- The power of two that the significand counts. -/
  exponent : Int
  /-- The form is the stored one. -/
  canonical : IsCanonical significand exponent
  deriving DecidableEq

/-- Zero with the given sign. -/
def Double.zero (negative : Bool) : Double := ⟨negative, 0, -1074, by decide⟩

instance : Inhabited Double := ⟨Double.zero false⟩

/-- The quotient rounded to the nearest natural number, a half to the even one. -/
def divRound (num den : Nat) : Nat :=
  let q := num / den
  let r := 2 * (num % den)
  if r < den ∨ (r = den ∧ q % 2 = 0) then q else q + 1

/-- The power of two in which the significand of `num / den` counts. -/
def unitExponent (num den : Nat) : Int :=
  let l : Int := (num.log2 : Int) - den.log2
  let reaches := den * Nat.pow 2 l.toNat ≤ num * Nat.pow 2 (-l).toNat
  max (if reaches then l - 52 else l - 53) (-1074)

/-- The binary64 number nearest to `num / den`; `none` beyond the largest one. -/
def Double.nearest? (negative : Bool) (num den : Nat) : Option Double :=
  if num = 0 then some (zero negative)
  else
    let q := unitExponent num den
    let m := divRound (num * Nat.pow 2 (-q).toNat) (den * Nat.pow 2 q.toNat)
    let (m, q) := if m = 2 * leastFull then (leastFull, q + 1) else (m, q)
    if h : IsCanonical m q then some ⟨negative, m, q, h⟩ else none

/-- The numerator of the magnitude. -/
def Double.num (d : Double) : Nat := d.significand * Nat.pow 2 d.exponent.toNat

/-- The denominator of the magnitude. -/
def Double.den (d : Double) : Nat := Nat.pow 2 (-d.exponent).toNat

/-- The product with a positive number; `none` beyond the largest one. -/
def Double.times? (d e : Double) : Option Double :=
  nearest? d.negative (d.num * e.num) (d.den * e.den)

/-- The quotient by a positive number; `none` beyond the largest one. -/
def Double.over? (d e : Double) : Option Double :=
  nearest? d.negative (d.num * e.den) (d.den * e.num)

end Fleet.Decimal
