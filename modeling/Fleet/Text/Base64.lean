/-! # Base 64

Bytes as text of 64 letters, padded with `=` to groups of four.  `decode` accepts exactly what
`encode` writes: a last group with the wrong padding, or with bits that belong to no byte, is
refused. -/

namespace Fleet.Text.Base64

/-- The letters in the order of their values. -/
def alphabet : List Char :=
  "ABCDEFGHIJKLMNOPQRSTUVWXYZabcdefghijklmnopqrstuvwxyz0123456789+/".toList

/-- The letter of a value below 64. -/
def letter (n : Nat) : Char := alphabet.getD n '='

/-- Writes bytes. -/
def encode : List UInt8 → List Char
  | [] => []
  | [a] => [letter (a.toNat / 4), letter (a.toNat % 4 * 16), '=', '=']
  | [a, b] =>
    [letter (a.toNat / 4), letter (a.toNat % 4 * 16 + b.toNat / 16), letter (b.toNat % 16 * 4), '=']
  | a :: b :: c :: rest =>
    letter (a.toNat / 4) :: letter (a.toNat % 4 * 16 + b.toNat / 16) ::
      letter (b.toNat % 16 * 4 + c.toNat / 64) :: letter (c.toNat % 64) :: encode rest

/-- Why a text writes no bytes. -/
inductive Error where
  /-- A byte that is no letter, or padding where none belongs. -/
  | invalidByte (byte : UInt8) (place : Nat)
  /-- The last group is a single letter. -/
  | invalidLength (length : Nat)
  /-- The last letter has bits that belong to no byte. -/
  | invalidLast (byte : UInt8) (place : Nat)
  /-- The last group is not filled up. -/
  | invalidPadding
  deriving DecidableEq, Repr

/-- The wording of an error. -/
def Error.message : Error → String
  | .invalidByte b place =>
    "Invalid symbol " ++ toString b.toNat ++ ", offset " ++ toString place ++ "."
  | .invalidLength n => "Invalid input length: " ++ toString n
  | .invalidLast b place =>
    "Invalid last symbol " ++ toString b.toNat ++ ", offset " ++ toString place ++ "."
  | .invalidPadding => "Invalid padding"

/-- The value of a letter. -/
def value? (b : UInt8) : Option Nat := alphabet.idxOf? (Char.ofNat b.toNat)

/-- The padding byte. -/
def pad : UInt8 := 0x3D

/-- The values of the letters in the last group, and how many padding bytes follow them. -/
def lastGroup (place index : Nat) (values : List Nat) (padding : Nat) :
    List UInt8 → Except Error (List Nat × Nat)
  | [] => .ok (values, padding)
  | b :: rest =>
    if b = pad then
      if index < 2 then .error (.invalidByte b (place + index))
      else lastGroup place (index + 1) values (padding + 1) rest
    else if 0 < padding then .error (.invalidByte pad (place + index - padding))
    else
      match value? b with
      | none => .error (.invalidByte b (place + index))
      | some v => lastGroup place (index + 1) (values ++ [v]) padding rest

/-- The byte that a number modulo 256 is. -/
def byte (n : Nat) : UInt8 := UInt8.ofNat n

/-- The bytes of the last group, which starts at `place`. -/
def decodeLast (place : Nat) (group : List UInt8) : Except Error (List UInt8) := do
  let (values, padding) ← lastGroup place 0 [] 0 group
  let last (n : Nat) : Except Error Unit :=
    if n = 0 then .ok ()
    else .error (.invalidLast (group.getD (values.length - 1) 0) (place + values.length - 1))
  if !group.isEmpty && values.length < 2 then throw (.invalidLength (place + values.length))
  if (padding + values.length) % 4 ≠ 0 then throw .invalidPadding
  match values with
  | [a, b] =>
    last (b % 16)
    return [byte (a * 4 + b / 16)]
  | [a, b, c] =>
    last (c % 4)
    return [byte (a * 4 + b / 16), byte (b % 16 * 16 + c / 4)]
  | [a, b, c, d] =>
    return [byte (a * 4 + b / 16), byte (b % 16 * 16 + c / 4), byte (c % 4 * 64 + d)]
  | _ => return []

/-- The bytes that letters from `place` on write. -/
def decodeFrom (place : Nat) : List UInt8 → Except Error (List UInt8)
  | a :: b :: c :: d :: e :: rest => do
    let value (i : Nat) (x : UInt8) : Except Error Nat :=
      match value? x with
      | some v => .ok v
      | none => .error (.invalidByte x (place + i))
    let va ← value 0 a
    let vb ← value 1 b
    let vc ← value 2 c
    let vd ← value 3 d
    let bytes ← decodeFrom (place + 4) (e :: rest)
    return byte (va * 4 + vb / 16) :: byte (vb % 16 * 16 + vc / 4) :: byte (vc % 4 * 64 + vd) ::
      bytes
  | group => decodeLast place group

/-- The bytes that a text writes.  A last byte that is no letter, alone in its group, is told
first. -/
def decode (s : List UInt8) : Except Error (List UInt8) :=
  match s.getLast? with
  | some b =>
    if s.length % 4 = 1 ∧ b ≠ pad ∧ (value? b).isNone then .error (.invalidByte b (s.length - 1))
    else decodeFrom 0 s
  | none => .ok []

end Fleet.Text.Base64
