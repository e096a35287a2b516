/-! # Text as bytes

`pieces` reads bytes as UTF-8: a character for every well-formed sequence, and a broken piece for
every longest sequence of bytes that starts like a character and breaks off.  The strict reading
`decode?` takes texts without broken pieces only; the lenient one writes U+FFFD there. -/

namespace Fleet.Text

/-- A piece of a text. -/
inductive Piece where
  | char (c : Char)
  /-- Bytes that are no character. -/
  | broken (bytes : Nat)
  deriving DecidableEq, Repr

/-- The character that a piece is. -/
def Piece.char? : Piece → Option Char
  | char c => some c
  | broken _ => none

/-- What is owed after the first bytes of a character. -/
inductive Pending where
  /-- Between characters. -/
  | start
  /-- After `seen` bytes `left + 1` are owed, the next of them from `low` to `high`; `value` holds
  the bits so far. -/
  | more (value seen left : Nat) (low high : UInt8)
  deriving DecidableEq, Repr

/-- What the first byte of a character leaves owed; `none` for a byte that starts none. -/
def Pending.ofFirst (b : UInt8) : Option Pending :=
  if b < 0xC2 then none
  else if b < 0xE0 then some (.more (b.toNat - 0xC0) 1 0 0x80 0xBF)
  else if b = 0xE0 then some (.more 0 1 1 0xA0 0xBF)
  else if b = 0xED then some (.more 0xD 1 1 0x80 0x9F)
  else if b < 0xF0 then some (.more (b.toNat - 0xE0) 1 1 0x80 0xBF)
  else if b = 0xF0 then some (.more 0 1 2 0x90 0xBF)
  else if b < 0xF4 then some (.more (b.toNat - 0xF0) 1 2 0x80 0xBF)
  else if b = 0xF4 then some (.more 4 1 2 0x80 0x8F)
  else none

/-- The pieces that byte `b` completes between two characters, and what is owed after it. -/
def Pending.first (b : UInt8) : List Piece × Pending :=
  if b < 0x80 then ([.char (Char.ofNat b.toNat)], .start)
  else match Pending.ofFirst b with
    | some p => ([], p)
    | none => ([.broken 1], .start)

/-- The pieces that byte `b` completes, and what is owed after it. -/
def Pending.step : Pending → UInt8 → List Piece × Pending
  | .start, b => Pending.first b
  | .more value seen left low high, b =>
    if low ≤ b ∧ b ≤ high then
      let value := value * 64 + (b.toNat - 0x80)
      match left with
      | 0 => ([.char (Char.ofNat value)], .start)
      | left + 1 => ([], .more value (seen + 1) left 0x80 0xBF)
    else
      let (pieces, p) := Pending.first b
      (.broken seen :: pieces, p)

/-- What is left at the end of a text. -/
def Pending.close : Pending → List Piece
  | .start => []
  | .more _ seen _ _ _ => [.broken seen]

/-- The pieces of `bytes` after a part of a character that leaves `p` owed. -/
def piecesFrom (p : Pending) : List UInt8 → List Piece
  | [] => p.close
  | b :: rest =>
    let (pieces, p) := p.step b
    pieces ++ piecesFrom p rest

/-- The characters that `bytes` write in UTF-8, and what between them is none. -/
def pieces (bytes : List UInt8) : List Piece := piecesFrom .start bytes

/-- The text that `bytes` write, if they are UTF-8 throughout. -/
def decode? (bytes : List UInt8) : Option String :=
  ((pieces bytes).mapM Piece.char?).map String.ofList

/-- The text that `bytes` write, with U+FFFD for every broken piece. -/
def decodeLossy (bytes : List UInt8) : String :=
  String.ofList ((pieces bytes).map (·.char?.getD '\uFFFD'))

/-- The UTF-8 bytes of a text. -/
def encode (s : String) : List UInt8 := s.toUTF8.toList

end Fleet.Text
