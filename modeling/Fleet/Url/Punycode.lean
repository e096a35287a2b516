/-! # Punycode

Labels of international domain names written in ASCII: the ASCII characters of the label first,
then, after the last hyphen, where to insert which other characters.  Distances are numbers in
base 36 whose digits have thresholds of their own, which follow a bias that adapts to the numbers
before. -/

namespace Fleet.Url.Punycode

/-- The value of a digit; the letters come first. -/
def digit? (c : Char) : Option Nat :=
  if 'a' ≤ c ∧ c ≤ 'z' then some (c.toNat - 'a'.toNat)
  else if 'A' ≤ c ∧ c ≤ 'Z' then some (c.toNat - 'A'.toNat)
  else if '0' ≤ c ∧ c ≤ '9' then some (c.toNat - '0'.toNat + 26)
  else none

/-- The threshold of the digit with position `k`, a multiple of the base. -/
def threshold (k bias : Nat) : Nat :=
  if k ≤ bias then 1 else if bias + 26 ≤ k then 26 else k - bias

/-- How often a distance is divided by 35 until it is at most 455, times 36, and what is left. -/
def scale (delta k : Nat) : Nat × Nat :=
  if 455 < delta then scale (delta / 35) (k + 36) else (delta, k)
termination_by delta

/-- The bias after a distance; `points` counts the characters with the one just inserted. -/
def adapt (delta points : Nat) (first : Bool) : Nat :=
  let delta := if first then delta / 700 else delta / 2
  let (delta, k) := scale (delta + delta / points) 0
  k + 36 * delta / (delta + 38)

/-- Reads a distance: its value added to `sum`, and the characters after it.  Sums of more than 32
bits are refused. -/
def distance (bias : Nat) (k weight sum : Nat) : List Char → Option (Nat × List Char)
  | [] => none
  | c :: rest =>
    match digit? c with
    | none => none
    | some d =>
      if 4294967296 ≤ sum + d * weight then none
      else if d < threshold k bias then some (sum + d * weight, rest)
      else distance bias (k + 36) (weight * (36 - threshold k bias)) (sum + d * weight) rest

theorem length_of_distance {bias k weight sum : Nat} {cs rest : List Char} {n : Nat}
    (h : distance bias k weight sum cs = some (n, rest)) : rest.length < cs.length := by
  fun_induction distance bias k weight sum cs with
  | case1 | case2 | case3 => simp at h
  | case4 => simp_all
  | case5 _ _ _ c cs _ _ _ _ ih => exact Nat.lt_trans (ih h) (by simp)

/-- A code point as a character. -/
def char? (n : Nat) : Option Char := if n.isValidChar then some (Char.ofNat n) else none

/-- Inserts the characters that `rest` names into `done`.  The last one was `n`; the next place is
`i`. -/
def insertions (done : List Char) (n i bias : Nat) (rest : List Char) : Option (List Char) :=
  if rest.isEmpty then some done
  else
    match _h : distance bias 36 1 i rest with
    | none => none
    | some (sum, after) => do
      let points := done.length + 1
      let n := n + sum / points
      let place := sum % points
      let c ← char? n
      insertions (done.take place ++ c :: done.drop place) n (place + 1)
        (adapt (sum - i) points (i == 0)) after
termination_by rest.length
decreasing_by exact length_of_distance _h

/-- The label that an encoded one stands for; the part behind `xn--` is given.  A hyphen without a
character before it divides nothing. -/
def decode (cs : List Char) : Option (List Char) :=
  let basic := ((cs.reverse.dropWhile (· ≠ '-')).drop 1).reverse
  let rest := if basic.isEmpty then cs else cs.drop (basic.length + 1)
  insertions basic 0x80 0 72 rest

end Fleet.Url.Punycode
