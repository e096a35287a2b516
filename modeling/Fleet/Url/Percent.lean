import Fleet.Text.Utf8

/-! # Percent encoding

Bytes of a URL written as `%` and two digits in base sixteen.  A `%` that no two digits follow
stands for itself. -/

namespace Fleet.Url

/-- The value of a digit in base sixteen, of either case. -/
def hexValue? (b : UInt8) : Option UInt8 :=
  if 0x30 ≤ b ∧ b ≤ 0x39 then some (b - 0x30)
  else if 0x41 ≤ b ∧ b ≤ 0x46 then some (b - 0x37)
  else if 0x61 ≤ b ∧ b ≤ 0x66 then some (b - 0x57)
  else none

/-- The bytes that percent encoded bytes stand for. -/
def percentDecode : List UInt8 → List UInt8
  | 0x25 :: a :: b :: rest =>
    match hexValue? a, hexValue? b with
    | some x, some y => (x * 16 + y) :: percentDecode rest
    | _, _ => 0x25 :: percentDecode (a :: b :: rest)
  | a :: rest => a :: percentDecode rest
  | [] => []

/-- A digit in base sixteen, in upper case. -/
def hexDigit (n : Nat) : Char := "0123456789ABCDEF".toList.getD n '0'

/-- A byte as `%` and its two digits. -/
def percentByte (b : UInt8) : List Char := ['%', hexDigit (b.toNat / 16), hexDigit (b.toNat % 16)]

/-- Characters with those that `escaped` selects written as their bytes. -/
def percentEncode (escaped : Char → Bool) (cs : List Char) : List Char :=
  cs.flatMap (fun c =>
    if escaped c then (Text.encode (String.singleton c)).flatMap percentByte else [c])

/-- Whether a path writes a character as its bytes: controls, characters beyond ASCII, and those
that would end the path or are unsafe in it. -/
def escapedInPath (c : Char) : Bool :=
  c.toNat < 0x20 || 0x7F ≤ c.toNat || [' ', '"', '<', '>', '`', '#', '?', '{', '}'].contains c

end Fleet.Url
