import Fleet.Decimal.Double

/-! # The fewest digits that round to a number

Of all decimals that round to a binary64 number, `Double.shortest` picks one with the fewest
digits, and of those the nearest to the number; a tie goes to the even digit.  For every count of
digits only the two neighbours of the number on that decimal grid are looked at: if any point of
the grid rounds to the number, one of them does. -/

namespace Fleet.Decimal

/-- The decimal `d₁.d₂d₃… * 10 ^ exponent`. -/
structure Digits where
  /-- The digits, the first and the last of them not zero. -/
  digits : List Char
  /-- The power of ten that the first digit counts. -/
  exponent : Int
  deriving DecidableEq, Repr

/-- The decimals that round to a number, counted in quarters of its last place. -/
structure Interval where
  /-- Where the interval begins. -/
  low : Nat
  /-- The number itself. -/
  value : Nat
  /-- Where the interval ends. -/
  high : Nat
  /-- Whether both ends belong to it. -/
  closed : Bool
  /-- The power of two that is a quarter of the last place. -/
  unit : Int

/-- The decimals that round to `d`. -/
def Double.interval (d : Double) : Interval :=
  let m := d.significand
  { low := if m = leastFull ∧ -1074 < d.exponent then 4 * m - 1 else 4 * m - 2
    value := 4 * m
    high := 4 * m + 2
    closed := m % 2 == 0
    unit := d.exponent - 2 }

/-- `c * 10 ^ k` in the common measure of `c * 10 ^ k` and `x * 2 ^ unit`. -/
def gridPoint (unit k : Int) (c : Nat) : Nat :=
  c * Nat.pow 10 k.toNat * Nat.pow 2 (-unit).toNat

/-- `x * 2 ^ unit` in the common measure of `c * 10 ^ k` and `x * 2 ^ unit`. -/
def binaryPoint (unit k : Int) (x : Nat) : Nat :=
  x * Nat.pow 2 unit.toNat * Nat.pow 10 (-k).toNat

/-- Whether `c * 10 ^ k` rounds to the number of the interval. -/
def Interval.holds (i : Interval) (k : Int) (c : Nat) : Bool :=
  let p := gridPoint i.unit k c
  let low := binaryPoint i.unit k i.low
  let high := binaryPoint i.unit k i.high
  if i.closed then low ≤ p && p ≤ high else low < p && p < high

/-- The neighbour of the number on the grid of `10 ^ k` that rounds to it, the nearer if both do;
of two as near the even one. -/
def Interval.hit? (i : Interval) (k : Int) : Option Nat :=
  let value := binaryPoint i.unit k i.value
  let below := value / gridPoint i.unit k 1
  match i.holds k below, i.holds k (below + 1) with
  | false, false => none
  | true, false => some below
  | false, true => some (below + 1)
  | true, true =>
    let down := value - gridPoint i.unit k below
    let up := gridPoint i.unit k (below + 1) - value
    some (if down < up ∨ (down = up ∧ below % 2 = 0) then below else below + 1)

/-- The power of ten of the first digit of a positive number. -/
def Interval.magnitude (i : Interval) : Int :=
  let scaled := binaryPoint i.unit (-400) i.value / gridPoint i.unit (-400) 1
  ((Nat.toDigits 10 scaled).length : Int) - 401

/-- The first hit on the grids of `digits`, `digits + 1`, … places, at most `left` of them. -/
def Interval.search (i : Interval) (magnitude : Int) : Nat → Nat → Option (Nat × Int)
  | 0, _ => none
  | left + 1, digits =>
    let k := magnitude - digits + 1
    match i.hit? k with
    | some c => some (c, k)
    | none => i.search magnitude left (digits + 1)

/-- The digits without the zeros at the end. -/
def stripZeros (digits : List Char) : List Char := (digits.reverse.dropWhile (· == '0')).reverse

/-- The shortest decimal that rounds to the magnitude of `d`; zero is the single digit 0. -/
def Double.shortest (d : Double) : Digits :=
  if d.significand = 0 then ⟨['0'], 0⟩
  else
    let i := d.interval
    match i.search i.magnitude 17 1 with
    | none => ⟨['0'], 0⟩
    | some (c, k) =>
      let digits := Nat.toDigits 10 c
      ⟨stripZeros digits, k + digits.length - 1⟩

end Fleet.Decimal
