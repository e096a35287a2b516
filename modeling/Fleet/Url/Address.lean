import Fleet.Text.Split
import Fleet.Url.Percent

/-! # Addresses in URLs

Which hosts are addresses, and which of those are well formed.  A version 4 address has one to four
numbers in base 8, 10 or 16, the last of which fills the bytes that are left; a version 6 address
has eight numbers in base 16, with two colons for a row of zeros at one place, and may end in a
version 4 address. -/

namespace Fleet.Url

/-- The value of a digit in base `base`. -/
def digitIn? (base : Nat) (c : Char) : Option Nat :=
  if c.toNat < 0x80 then
    match hexValue? c.toNat.toUInt8 with
    | some d => if d.toNat < base then some d.toNat else none
    | none => none
  else none

/-- The number that digits write in base `base`. -/
def numberIn? (base : Nat) (cs : List Char) : Option Nat :=
  cs.foldlM (fun n c => (digitIn? base c).map (n * base + ·)) 0

/-- A number of a version 4 address: base 16 after `0x`, base 8 after another leading zero. -/
def addressNumber? : List Char → Option Nat
  | [] => none
  | '0' :: 'x' :: cs | '0' :: 'X' :: cs => numberIn? 16 cs
  | '0' :: c :: cs => numberIn? 8 (c :: cs)
  | cs => numberIn? 10 cs

/-- The parts of a host between its points; a point at its end does not count. -/
def hostParts (cs : List Char) : List (List Char) :=
  let parts := Text.splitOn (· == '.') cs
  if 1 < parts.length && parts.getLast? == some [] then parts.dropLast else parts

/-- Whether the last part of a host is a number, so that the host must be an address. -/
def endsInNumber (cs : List Char) : Bool :=
  match (hostParts cs).getLast? with
  | some last => (!last.isEmpty && last.all Char.isDigit) || (addressNumber? last).isSome
  | none => false

/-- Whether a host that ends in a number is a version 4 address. -/
def isAddress4 (cs : List Char) : Bool :=
  let parts := hostParts cs
  match parts.mapM addressNumber? with
  | some numbers =>
    parts.length ≤ 4 && numbers.dropLast.all (· < 256) &&
      numbers.getLast?.any (· < Nat.pow 256 (5 - numbers.length))
  | none => false

/-- Whether a version 6 address may end in `cs`, four numbers below 256 without leading zeros. -/
def isAddress4Tail (cs : List Char) : Bool :=
  let parts := Text.splitOn (· == '.') cs
  parts.length == 4 && parts.all (fun p =>
    !p.isEmpty && (p.length == 1 || p.head? != some '0') && (numberIn? 10 p).any (· < 256))

/-- Whether `cs` ends a version 6 address after `count` numbers; a row of zeros before counts as
one and is told by `shortened`. -/
def isAddress6From (count : Nat) (shortened : Bool) (cs : List Char) : Bool :=
  match cs with
  | [] => shortened || count == 8
  | c :: rest =>
    if count = 8 then false
    else if c = ':' then !shortened && isAddress6From (count + 1) true rest
    else
      let digits := ((c :: rest).take 4).takeWhile (fun c => (digitIn? 16 c).isSome)
      match _h : (c :: rest).drop digits.length with
      | [] => isAddress6From (count + 1) shortened []
      | '.' :: _ => !digits.isEmpty && count ≤ 6 && isAddress4Tail (c :: rest)
      | ':' :: after => !after.isEmpty && isAddress6From (count + 1) shortened after
      | _ => false
termination_by cs.length
decreasing_by
  · simp
  · simp
  · have := congrArg List.length _h
    simp only [List.length_drop, List.length_cons] at this ⊢
    omega

/-- Whether `cs` is a version 6 address. -/
def isAddress6 : List Char → Bool
  | ':' :: ':' :: rest => isAddress6From 1 true rest
  | ':' :: _ => false
  | cs => isAddress6From 0 false cs

end Fleet.Url
