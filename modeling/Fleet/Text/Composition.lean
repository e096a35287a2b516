import Fleet.Text.CombiningClass
import Fleet.Text.CompositionTable

/-! # Composed text

A character with marks can be written in several ways.  `composed` is the one with the marks in the
order of their classes and with as few characters as possible, for texts without characters that
stand for a single other one. -/

namespace Fleet.Text

/-! ### Korean syllables -/

/-- A syllable as the pair of its last letter and what comes before. -/
def syllablePair? (c : Char) : Option (Char × Char) :=
  if 0xAC00 ≤ c.toNat ∧ c.toNat ≤ 0xD7A3 then
    let n := c.toNat - 0xAC00
    if n % 28 = 0 then
      some (Char.ofNat (0x1100 + n / 588), Char.ofNat (0x1161 + n % 588 / 28))
    else some (Char.ofNat (c.toNat - n % 28), Char.ofNat (0x11A7 + n % 28))
  else none

/-- The syllable of two letters, or of a syllable and a last letter. -/
def syllable? (a b : Char) : Option Char :=
  if 0x1100 ≤ a.toNat ∧ a.toNat < 0x1113 ∧ 0x1161 ≤ b.toNat ∧ b.toNat < 0x1176 then
    some (Char.ofNat (0xAC00 + ((a.toNat - 0x1100) * 21 + (b.toNat - 0x1161)) * 28))
  else if 0xAC00 ≤ a.toNat ∧ a.toNat ≤ 0xD7A3 ∧ (a.toNat - 0xAC00) % 28 = 0 ∧
      0x11A7 < b.toNat ∧ b.toNat < 0x11C3 then
    some (Char.ofNat (a.toNat + (b.toNat - 0x11A7)))
  else none

/-! ### Pairs -/

/-- The parts of a composite. -/
def pair? (c : Char) : Option (Char × Char) :=
  if c.toNat < 0xC0 then none
  else (syllablePair? c).or
    ((compositions.find? (fun r => r.2.2 == c.toNat)).map
      (fun r => (Char.ofNat r.1, Char.ofNat r.2.1)))

/-- The composite of two parts. -/
def composite? (a b : Char) : Option Char :=
  if b.toNat < 0x300 then none
  else (syllable? a b).or
    ((compositions.find? (fun r => r.1 == a.toNat && r.2.1 == b.toNat)).map
      (fun r => Char.ofNat r.2.2))

/-! ### The normal form -/

/-- The parts of a character whose composites nest at most `depth` deep. -/
def parts (depth : Nat) (c : Char) : List Char :=
  match depth with
  | 0 => [c]
  | depth + 1 =>
    match pair? c with
    | some (a, b) => parts depth a ++ [b]
    | none => [c]

/-- How deep composites nest. -/
def compositeDepth : Nat := 4

/-- Puts a mark behind the marks with a lower class that it stands before. -/
def placeMark (c : Char) : List Char → List Char
  | [] => [c]
  | d :: rest =>
    if combiningClass d ≠ 0 ∧ combiningClass d < combiningClass c then d :: placeMark c rest
    else c :: d :: rest

/-- The text with the marks behind each character in the order of their classes. -/
def orderMarks : List Char → List Char
  | [] => []
  | c :: rest => placeMark c (orderMarks rest)

/-- Composes `start`, behind which the marks `kept`, last one first, have not been composed, with
what follows.  A mark is composed unless one kept before it has its class or a higher one. -/
def composeFrom (start : Char) (kept : List Char) : List Char → List Char
  | [] => start :: kept.reverse
  | c :: rest =>
    let isOpen := kept.head?.all (fun d => combiningClass d < combiningClass c)
    match if isOpen then composite? start c else none with
    | some d => composeFrom d kept rest
    | none =>
      if combiningClass c = 0 then start :: kept.reverse ++ composeFrom c [] rest
      else composeFrom start (c :: kept) rest

/-- The text composed. -/
def composed (cs : List Char) : List Char :=
  if cs.all (·.toNat < 0x300) then cs
  else
    match orderMarks (cs.flatMap (parts compositeDepth)) with
    | [] => []
    | c :: rest => composeFrom c [] rest

end Fleet.Text
