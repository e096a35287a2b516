import Fleet.Json.Value
import Fleet.Decimal.Shortest
import Fleet.Text.Quoted

/-! # Writing JSON

Values are written without blanks.  A text escapes quotes, backslashes and the characters below
U+0020, and nothing else.  A binary64 number has the fewest digits that round to it, always with a
point or an exponent, so that it never reads as an integer. -/

namespace Fleet.Json

open Fleet.Decimal

/-- What stands for `c` in a JSON text. -/
def escapeChar (c : Char) : List Char :=
  if c = '"' then ['\\', '"']
  else if c = '\\' then ['\\', '\\']
  else if c = '\x08' then ['\\', 'b']
  else if c = '\x0c' then ['\\', 'f']
  else if c = '\n' then ['\\', 'n']
  else if c = '\r' then ['\\', 'r']
  else if c = '\t' then ['\\', 't']
  else if c.toNat < 0x10 then ['\\', 'u', '0', '0', '0'] ++ Text.hex c.toNat
  else if c.toNat < 0x20 then ['\\', 'u', '0', '0'] ++ Text.hex c.toNat
  else [c]

/-- A text between quotes. -/
def printString (s : String) : List Char := '"' :: s.toList.flatMap escapeChar ++ ['"']

/-- An integer in decimal. -/
def printInt (i : Int) : List Char :=
  if i < 0 then '-' :: Nat.toDigits 10 i.natAbs else Nat.toDigits 10 i.natAbs

/-- How binary64 numbers are laid out. -/
structure DoubleFormat where
  /-- The least exponent written with leading zeros. -/
  low : Int
  /-- The least exponent beyond `low` written with an exponent again. -/
  high : Int

/-- Decimal exponents from -5 to 15 are written out; beyond, the exponent carries its sign. -/
def doubleFormat : DoubleFormat := ⟨-5, 16⟩

/-- The digits with a point after the first `n`, which is inside or behind them. -/
def withPoint (digits : List Char) (n : Nat) : List Char :=
  if digits.length ≤ n then digits ++ List.replicate (n - digits.length) '0' ++ ['.', '0']
  else digits.take n ++ '.' :: digits.drop n

/-- Digits with an exponent after them. -/
def withExponent (digits : List Char) (exponent : Int) : List Char :=
  let head := digits.take 1
  let tail := digits.drop 1
  head ++ (if tail.isEmpty then [] else '.' :: tail) ++
    'e' :: (if exponent < 0 then '-' else '+') :: Nat.toDigits 10 exponent.natAbs

/-- A binary64 number. -/
def printDouble (d : Double) : List Char :=
  let s := d.shortest
  let body :=
    if s.exponent < doubleFormat.low ∨ doubleFormat.high ≤ s.exponent then
      withExponent s.digits s.exponent
    else if s.exponent < 0 then
      '0' :: '.' :: List.replicate ((-s.exponent).toNat - 1) '0' ++ s.digits
    else withPoint s.digits (s.exponent.toNat + 1)
  if d.negative then '-' :: body else body

/-- A number. -/
def Number.print : Number → List Char
  | .integer i _ => printInt i
  | .double d => printDouble d

mutual
/-- A value, without blanks. -/
def Value.print : Value → List Char
  | .null => ['n', 'u', 'l', 'l']
  | .bool true => ['t', 'r', 'u', 'e']
  | .bool false => ['f', 'a', 'l', 's', 'e']
  | .number n => n.print
  | .string s => printString s
  | .array items => '[' :: printItems items ++ [']']
  | .object members => '{' :: printMembers members ++ ['}']

/-- The items of an array, with commas between them. -/
def printItems : List Value → List Char
  | [] => []
  | [v] => v.print
  | v :: rest => v.print ++ ',' :: printItems rest

/-- The members of an object, with commas between them. -/
def printMembers : List (String × Value) → List Char
  | [] => []
  | [(k, v)] => printString k ++ ':' :: v.print
  | (k, v) :: rest => printString k ++ ':' :: v.print ++ ',' :: printMembers rest
end

/-- The JSON text of a value. -/
def Value.render (v : Value) : String := String.ofList v.print

end Fleet.Json
