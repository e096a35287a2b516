import Fleet.Text.Utf8
import Mathlib.Algebra.Order.Ring.Nat

/-! # Reading UTF-8

Reading the bytes of a text gives the text (`decodeLossy_encode`).  Whatever bytes are read, what is
read has no more ASCII characters than there are ASCII bytes (`countP_decodeLossy`): of every
part of a character that is read, only characters beyond ASCII can come (`Pending.Fits`). -/

namespace Fleet.Text

/-! ### Bytes of texts -/

theorem toList_loop_eq (bytes : ByteArray) (i : Nat) (done : List UInt8) :
    ByteArray.toList.loop bytes i done = done.reverse ++ bytes.data.toList.drop i := by
  fun_induction ByteArray.toList.loop bytes i done with
  | case1 i done h ih =>
      have hi : i < bytes.data.toList.length := h
      rw [ih, List.drop_eq_getElem_cons hi, List.reverse_cons, List.append_assoc]
      simp [ByteArray.get!, h]
  | case2 i done h =>
      rw [List.drop_eq_nil_of_le (Nat.le_of_not_lt h), List.append_nil]

theorem encode_eq_flatMap (s : String) : encode s = s.toList.flatMap String.utf8EncodeChar := by
  unfold encode ByteArray.toList
  rw [toList_loop_eq, String.toUTF8_eq_toByteArray, ← String.ofList_toList (s := s),
    String.toByteArray_ofList, String.toList_ofList]
  exact List.toList_data_toByteArray

/-! ### Reading characters -/

section Steps

variable {value seen left : Nat} {low high b : UInt8} {rest : List UInt8}

theorem piecesFrom_last (h : low ≤ b ∧ b ≤ high) :
    piecesFrom (.more value seen 0 low high) (b :: rest) =
      .char (Char.ofNat (value * 64 + (b.toNat - 0x80))) :: piecesFrom .start rest := by
  simp only [piecesFrom, Pending.step, if_pos h]
  rfl

theorem piecesFrom_next (h : low ≤ b ∧ b ≤ high) :
    piecesFrom (.more value seen (left + 1) low high) (b :: rest) =
      piecesFrom (.more (value * 64 + (b.toNat - 0x80)) (seen + 1) left 0x80 0xBF) rest := by
  simp only [piecesFrom, Pending.step, if_pos h]
  rfl

theorem piecesFrom_first {p : Pending} (hb : ¬ b < 0x80) (h : Pending.ofFirst b = some p) :
    piecesFrom .start (b :: rest) = piecesFrom p rest := by
  simp only [piecesFrom, Pending.step, Pending.first, if_neg hb, h]
  rfl

end Steps

section Characters

variable {rest : List UInt8} {n v : Nat}

theorem toNat_ofNat (h : n < 256) : (UInt8.ofNat n).toNat = n := UInt8.toNat_ofNat_of_lt' h

theorem ofNat_mem {low high : UInt8} (hlow : low.toNat ≤ n) (hhigh : n ≤ high.toNat) :
    low ≤ UInt8.ofNat n ∧ UInt8.ofNat n ≤ high := by
  have hn : n < 256 := Nat.lt_of_le_of_lt hhigh high.toNat_lt
  rw [UInt8.le_iff_toNat_le, UInt8.le_iff_toNat_le, toNat_ofNat hn]
  exact ⟨hlow, hhigh⟩

theorem not_ofNat_lt (h : 0x80 ≤ n) (hn : n < 256) : ¬ UInt8.ofNat n < 0x80 := by
  rw [UInt8.lt_iff_toNat_lt, toNat_ofNat hn]
  exact Nat.not_lt.2 h

/-- What the first byte of a character leaves owed, by its number. -/
theorem ofFirst_ofNat (hn : n < 256) : Pending.ofFirst (UInt8.ofNat n) =
    if n < 0xC2 then none
    else if n < 0xE0 then some (.more (n - 0xC0) 1 0 0x80 0xBF)
    else if n = 0xE0 then some (.more 0 1 1 0xA0 0xBF)
    else if n = 0xED then some (.more 0xD 1 1 0x80 0x9F)
    else if n < 0xF0 then some (.more (n - 0xE0) 1 1 0x80 0xBF)
    else if n = 0xF0 then some (.more 0 1 2 0x90 0xBF)
    else if n < 0xF4 then some (.more (n - 0xF0) 1 2 0x80 0xBF)
    else if n = 0xF4 then some (.more 4 1 2 0x80 0x8F)
    else none := by
  simp only [Pending.ofFirst, UInt8.lt_iff_toNat_lt, ← UInt8.toNat_inj, UInt8.reduceToNat,
    toNat_ofNat hn]

/-- A byte that follows within a character. -/
theorem tail_mem (n : Nat) (h : n < 64) :
    (0x80 : UInt8) ≤ UInt8.ofNat (n + 128) ∧ UInt8.ofNat (n + 128) ≤ 0xBF :=
  ofNat_mem (Nat.le_add_left 128 n) (Nat.le_of_lt_succ (Nat.add_lt_add_right h 128))

theorem piecesFrom_two (h : 0x80 ≤ v) (h' : v ≤ 0x7FF) :
    piecesFrom .start (UInt8.ofNat (v / 64 % 32 + 192) :: UInt8.ofNat (v % 64 + 128) :: rest) =
      .char (Char.ofNat v) :: piecesFrom .start rest := by
  have hfirst : Pending.ofFirst (UInt8.ofNat (v / 64 % 32 + 192)) =
      some (.more (v / 64) 1 0 0x80 0xBF) := by
    have hvalue : v / 64 % 32 + 192 - 0xC0 = v / 64 := by omega
    rw [ofFirst_ofNat (by omega), if_neg (by omega), if_pos (by omega), hvalue]
  have hvalue : v / 64 * 64 + (v % 64 + 128 - 0x80) = v := by omega
  rw [piecesFrom_first (not_ofNat_lt (by omega) (by omega)) hfirst,
    piecesFrom_last (tail_mem (v % 64) (by omega)), toNat_ofNat (by omega), hvalue]

/-- What is owed after the first of three bytes. -/
theorem ofFirst_three (h : 0x800 ≤ v) (h' : v ≤ 0xFFFF) (hv : v < 0xD800 ∨ 0xDFFF < v) :
    ∃ low high : UInt8, Pending.ofFirst (UInt8.ofNat (v / 4096 % 16 + 224)) =
        some (.more (v / 4096) 1 1 low high) ∧
      low.toNat ≤ v / 64 % 64 + 128 ∧ v / 64 % 64 + 128 ≤ high.toNat := by
  have hvalue : v / 4096 % 16 + 224 - 0xE0 = v / 4096 := by omega
  rw [ofFirst_ofNat (by omega), if_neg (by omega), if_neg (by omega)]
  by_cases hE0 : v / 4096 % 16 + 224 = 0xE0
  · have hzero : v / 4096 = 0 := by omega
    rw [if_pos hE0, hzero]
    exact ⟨0xA0, 0xBF, rfl, by change 0xA0 ≤ _; omega, by change _ ≤ 0xBF; omega⟩
  by_cases hED : v / 4096 % 16 + 224 = 0xED
  · have hthirteen : v / 4096 = 0xD := by omega
    rw [if_neg hE0, if_pos hED, hthirteen]
    exact ⟨0x80, 0x9F, rfl, by change 0x80 ≤ _; omega, by change _ ≤ 0x9F; omega⟩
  · rw [if_neg hE0, if_neg hED, if_pos (by omega), hvalue]
    exact ⟨0x80, 0xBF, rfl, by change 0x80 ≤ _; omega, by change _ ≤ 0xBF; omega⟩

theorem piecesFrom_three (h : 0x800 ≤ v) (h' : v ≤ 0xFFFF) (hv : v < 0xD800 ∨ 0xDFFF < v) :
    piecesFrom .start (UInt8.ofNat (v / 4096 % 16 + 224) :: UInt8.ofNat (v / 64 % 64 + 128) ::
        UInt8.ofNat (v % 64 + 128) :: rest) =
      .char (Char.ofNat v) :: piecesFrom .start rest := by
  obtain ⟨low, high, hfirst, hlow, hhigh⟩ := ofFirst_three h h' hv
  have hvalue : (v / 4096 * 64 + (v / 64 % 64 + 128 - 0x80)) * 64 + (v % 64 + 128 - 0x80) = v := by
    omega
  rw [piecesFrom_first (not_ofNat_lt (by omega) (by omega)) hfirst,
    piecesFrom_next (ofNat_mem hlow hhigh), piecesFrom_last (tail_mem (v % 64) (by omega)),
    toNat_ofNat (by omega), toNat_ofNat (by omega), hvalue]

/-- What is owed after the first of four bytes. -/
theorem ofFirst_four (h : 0x10000 ≤ v) (h' : v < 0x110000) :
    ∃ low high : UInt8, Pending.ofFirst (UInt8.ofNat (v / 262144 % 8 + 240)) =
        some (.more (v / 262144) 1 2 low high) ∧
      low.toNat ≤ v / 4096 % 64 + 128 ∧ v / 4096 % 64 + 128 ≤ high.toNat := by
  have hvalue : v / 262144 % 8 + 240 - 0xF0 = v / 262144 := by omega
  rw [ofFirst_ofNat (by omega), if_neg (by omega), if_neg (by omega), if_neg (by omega),
    if_neg (by omega), if_neg (by omega)]
  by_cases hF0 : v / 262144 % 8 + 240 = 0xF0
  · have hzero : v / 262144 = 0 := by omega
    rw [if_pos hF0, hzero]
    exact ⟨0x90, 0xBF, rfl, by change 0x90 ≤ _; omega, by change _ ≤ 0xBF; omega⟩
  by_cases hF4 : v / 262144 % 8 + 240 = 0xF4
  · have hfour : v / 262144 = 4 := by omega
    rw [if_neg hF0, if_neg (by omega), if_pos hF4, hfour]
    exact ⟨0x80, 0x8F, rfl, by change 0x80 ≤ _; omega, by change _ ≤ 0x8F; omega⟩
  · rw [if_neg hF0, if_pos (by omega), hvalue]
    exact ⟨0x80, 0xBF, rfl, by change 0x80 ≤ _; omega, by change _ ≤ 0xBF; omega⟩

theorem piecesFrom_four (h : 0x10000 ≤ v) (h' : v < 0x110000) :
    piecesFrom .start (UInt8.ofNat (v / 262144 % 8 + 240) :: UInt8.ofNat (v / 4096 % 64 + 128) ::
        UInt8.ofNat (v / 64 % 64 + 128) :: UInt8.ofNat (v % 64 + 128) :: rest) =
      .char (Char.ofNat v) :: piecesFrom .start rest := by
  obtain ⟨low, high, hfirst, hlow, hhigh⟩ := ofFirst_four h h'
  have hvalue : ((v / 262144 * 64 + (v / 4096 % 64 + 128 - 0x80)) * 64 +
      (v / 64 % 64 + 128 - 0x80)) * 64 + (v % 64 + 128 - 0x80) = v := by omega
  rw [piecesFrom_first (not_ofNat_lt (by omega) (by omega)) hfirst,
    piecesFrom_next (ofNat_mem hlow hhigh), piecesFrom_next (tail_mem (v / 64 % 64) (by omega)),
    piecesFrom_last (tail_mem (v % 64) (by omega)), toNat_ofNat (by omega), toNat_ofNat (by omega),
    toNat_ofNat (by omega), hvalue]

theorem piecesFrom_one (h : v ≤ 0x7F) :
    piecesFrom .start (UInt8.ofNat v :: rest) = .char (Char.ofNat v) :: piecesFrom .start rest := by
  have hascii : UInt8.ofNat v < 0x80 := by
    rw [UInt8.lt_iff_toNat_lt, toNat_ofNat (by omega)]
    exact Nat.lt_succ_of_le h
  simp only [piecesFrom, Pending.step, Pending.first, if_pos hascii,
    toNat_ofNat (show v < 256 by omega)]
  rfl

/-- The bytes of a character are read as the character. -/
theorem piecesFrom_char (c : Char) : piecesFrom .start (String.utf8EncodeChar c ++ rest) =
    .char c :: piecesFrom .start rest := by
  have hvalid : c.toNat < 0xD800 ∨ 0xDFFF < c.toNat ∧ c.toNat < 0x110000 := c.valid
  have hchar : Char.ofNat c.val.toNat = c := Char.ofNat_toNat c
  unfold String.utf8EncodeChar
  dsimp only
  change c.val.toNat < _ ∨ _ < c.val.toNat ∧ c.val.toNat < _ at hvalid
  split_ifs with h₁ h₂ h₃
  · exact (piecesFrom_one h₁).trans (by rw [hchar]; rfl)
  · exact (piecesFrom_two (by omega) h₂).trans (by rw [hchar]; rfl)
  · exact (piecesFrom_three (by omega) h₃ (by omega)).trans (by rw [hchar]; rfl)
  · exact (piecesFrom_four (by omega) (by omega)).trans (by rw [hchar]; rfl)

theorem piecesFrom_chars (cs : List Char) :
    piecesFrom .start (cs.flatMap String.utf8EncodeChar) = cs.map .char := by
  induction cs with
  | nil => rfl
  | cons c cs ih => rw [List.flatMap_cons, piecesFrom_char, ih, List.map_cons]

/-- Reading the bytes of a text gives the text. -/
theorem decodeLossy_encode (s : String) : decodeLossy (encode s) = s := by
  have hmap : (fun p : Piece => p.char?.getD '\uFFFD') ∘ Piece.char = id := rfl
  unfold decodeLossy pieces
  rw [encode_eq_flatMap, piecesFrom_chars, List.map_map, hmap, List.map_id, String.ofList_toList]

end Characters

/-! ### Texts without characters -/

theorem ne_start_of_ofFirst {b : UInt8} {p : Pending} (h : Pending.ofFirst b = some p) :
    p ≠ .start := by
  unfold Pending.ofFirst at h
  split_ifs at h <;> cases h <;> simp

/-- A byte that completes nothing leaves something owed. -/
theorem first_ne (b : UInt8) : (Pending.first b).1 ≠ [] ∨ (Pending.first b).2 ≠ .start := by
  unfold Pending.first
  split
  · simp
  · split
    · next p hfirst => exact Or.inr (ne_start_of_ofFirst hfirst)
    · simp

theorem step_ne (p : Pending) (b : UInt8) : (p.step b).1 ≠ [] ∨ (p.step b).2 ≠ .start := by
  cases p with
  | start => exact first_ne b
  | more value seen left low high =>
      unfold Pending.step
      dsimp only
      split
      · cases left <;> simp
      · simp

theorem piecesFrom_eq_nil {p : Pending} {bytes : List UInt8} (h : piecesFrom p bytes = []) :
    p = .start ∧ bytes = [] := by
  induction bytes generalizing p with
  | nil =>
      cases p with
      | start => exact ⟨rfl, rfl⟩
      | more => cases h
  | cons b rest ih =>
      have hboth : (p.step b).1 = [] ∧ piecesFrom (p.step b).2 rest = [] := List.append_eq_nil_iff.1 h
      obtain ⟨hstart, -⟩ := ih hboth.2
      rcases step_ne p b with hne | hne
      · exact absurd hboth.1 hne
      · exact absurd hstart hne

/-- Only no bytes at all write the empty text. -/
theorem eq_nil_of_decode? {bytes : List UInt8} (h : decode? bytes = some "") : bytes = [] := by
  obtain ⟨cs, hcs, hempty⟩ := Option.map_eq_some_iff.1 h
  obtain rfl : cs = [] := String.ofList_eq_empty_iff.1 hempty
  cases hpieces : pieces bytes with
  | nil => exact (piecesFrom_eq_nil hpieces).2
  | cons p ps =>
      rw [hpieces, List.mapM_cons] at hcs
      simp [Option.bind_eq_some_iff] at hcs

theorem eq_empty_of_encode {s : String} (h : encode s = []) : s = "" := by
  rw [← decodeLossy_encode s, h]
  rfl

/-! ### ASCII -/

/-- The bytes of ASCII characters. -/
def isAsciiByte (b : UInt8) : Bool := b < 0x80

/-- The characters of ASCII. -/
def isAscii (c : Char) : Bool := c.toNat < 0x80

/-- What is owed can only give a character beyond ASCII: `low` and `high` bound the next byte, and
what follows adds six bits each. -/
def Pending.Fits : Pending → Prop
  | .start => True
  | .more value _ left low high =>
    left ≤ 2 ∧ 0x80 ≤ low.toNat ∧ high.toNat ≤ 0xBF ∧
    0x80 ≤ (value * 64 + (low.toNat - 0x80)) * 64 ^ left ∧
    ((value * 64 + (high.toNat - 0x80) + 1) * 64 ^ left ≤ 0xD800 ∨
      0xE000 ≤ (value * 64 + (low.toNat - 0x80)) * 64 ^ left ∧
        (value * 64 + (high.toNat - 0x80) + 1) * 64 ^ left ≤ 0x110000)

theorem fits_of_ofFirst {b : UInt8} {p : Pending} (h : Pending.ofFirst b = some p) : p.Fits := by
  have hb : b = UInt8.ofNat b.toNat := (UInt8.ofNat_toNat).symm
  rw [hb, ofFirst_ofNat b.toNat_lt] at h
  split_ifs at h <;> cases h <;>
    simp only [Pending.Fits, UInt8.reduceToNat, Nat.reducePow] <;> omega

/-- A byte within a character brings what is owed down to the next byte, or to a character. -/
theorem Pending.Fits.next {value seen left : Nat} {low high b : UInt8}
    (h : (Pending.more value seen (left + 1) low high).Fits) (hb : low ≤ b ∧ b ≤ high) :
    (Pending.more (value * 64 + (b.toNat - 0x80)) (seen + 1) left 0x80 0xBF).Fits := by
  obtain ⟨hleft, hlow, hhigh, hascii, hvalid⟩ := h
  rw [UInt8.le_iff_toNat_le, UInt8.le_iff_toNat_le] at hb
  have hcases : left = 0 ∨ left = 1 := by omega
  rcases hcases with rfl | rfl <;>
    simp only [Pending.Fits, UInt8.reduceToNat, Nat.reducePow, Nat.reduceAdd] at * <;> omega

theorem Pending.Fits.last {value seen : Nat} {low high b : UInt8}
    (h : (Pending.more value seen 0 low high).Fits) (hb : low ≤ b ∧ b ≤ high) :
    isAscii (Char.ofNat (value * 64 + (b.toNat - 0x80))) = false := by
  obtain ⟨-, hlow, hhigh, hascii, hvalid⟩ := h
  rw [UInt8.le_iff_toNat_le, UInt8.le_iff_toNat_le] at hb
  have hchar : (value * 64 + (b.toNat - 0x80)).isValidChar := by
    unfold Nat.isValidChar
    omega
  have hnumber : (Char.ofNat (value * 64 + (b.toNat - 0x80))).toNat =
      value * 64 + (b.toNat - 0x80) := by
    unfold Char.ofNat
    rw [dif_pos hchar]
    rfl
  unfold isAscii
  rw [hnumber, decide_eq_false_iff_not]
  omega

/-- A character of ASCII that was read. -/
def Piece.isAscii (p : Piece) : Bool := p.char?.any Text.isAscii

theorem Piece.isAscii_char (c : Char) : (Piece.char c).isAscii = Text.isAscii c := rfl

theorem fits_first (b : UInt8) : (Pending.first b).2.Fits ∧
    (Pending.first b).1.countP Piece.isAscii ≤ if isAsciiByte b then 1 else 0 := by
  unfold Pending.first isAsciiByte
  by_cases hb : b < 0x80
  · rw [if_pos hb, if_pos (decide_eq_true hb)]
    exact ⟨trivial, List.countP_le_length⟩
  · rw [if_neg hb]
    cases hfirst : Pending.ofFirst b with
    | none => exact ⟨trivial, Nat.zero_le _⟩
    | some p => exact ⟨fits_of_ofFirst hfirst, Nat.zero_le _⟩

/-- Only a byte of ASCII gives a character of ASCII. -/
theorem Pending.Fits.step {p : Pending} (h : p.Fits) (b : UInt8) :
    (p.step b).2.Fits ∧ (p.step b).1.countP Piece.isAscii ≤ if isAsciiByte b then 1 else 0 := by
  cases p with
  | start => exact fits_first b
  | more value seen left low high =>
      unfold Pending.step
      dsimp only
      by_cases hb : low ≤ b ∧ b ≤ high
      · rw [if_pos hb]
        cases left with
        | zero =>
            refine ⟨trivial, ?_⟩
            rw [List.countP_singleton, Piece.isAscii_char, h.last hb]
            exact Nat.zero_le _
        | succ left => exact ⟨h.next hb, Nat.zero_le _⟩
      · rw [if_neg hb]
        exact ⟨(fits_first b).1, (fits_first b).2⟩

theorem countP_piecesFrom {p : Pending} (h : p.Fits) (bytes : List UInt8) :
    (piecesFrom p bytes).countP Piece.isAscii ≤ bytes.countP isAsciiByte := by
  induction bytes generalizing p with
  | nil => cases p <;> exact Nat.le_refl 0
  | cons b rest ih =>
      obtain ⟨hfits, hcount⟩ := h.step b
      have hrest := ih hfits
      have hpieces : piecesFrom p (b :: rest) = (p.step b).1 ++ piecesFrom (p.step b).2 rest := rfl
      rw [hpieces, List.countP_append, List.countP_cons]
      omega

/-- What is read of bytes has no more characters of ASCII than there are bytes of ASCII. -/
theorem countP_decodeLossy (bytes : List UInt8) :
    (decodeLossy bytes).toList.countP isAscii ≤ bytes.countP isAsciiByte := by
  have hpiece : ∀ p : Piece, isAscii (p.char?.getD '\uFFFD') = p.isAscii := by
    intro p
    cases p <;> rfl
  unfold decodeLossy
  rw [String.toList_ofList, List.countP_map]
  simp only [Function.comp_def, hpiece]
  exact countP_piecesFrom (p := .start) trivial bytes

theorem isAsciiByte_ofNat {n : Nat} (h : 0x80 ≤ n) (hn : n < 256) :
    isAsciiByte (UInt8.ofNat n) = false := decide_eq_false (not_ofNat_lt h hn)

theorem not_isAsciiByte_of_mem {c : Char} (h : isAscii c = false) {b : UInt8}
    (hb : b ∈ String.utf8EncodeChar c) : isAsciiByte b = false := by
  have hbeyond : ¬ c.val.toNat < 0x80 := of_decide_eq_false h
  unfold String.utf8EncodeChar at hb
  dsimp only at hb
  rw [if_neg (by omega)] at hb
  split_ifs at hb <;> simp only [List.mem_cons, List.not_mem_nil, or_false] at hb
  · rcases hb with rfl | rfl <;> exact isAsciiByte_ofNat (by omega) (by omega)
  · rcases hb with rfl | rfl | rfl <;> exact isAsciiByte_ofNat (by omega) (by omega)
  · rcases hb with rfl | rfl | rfl | rfl <;> exact isAsciiByte_ofNat (by omega) (by omega)

/-- Bytes of ASCII come from the characters that they are. -/
theorem exists_mem_of_mem_encode {s : String} {b : UInt8} (hb : b ∈ encode s)
    (hascii : isAsciiByte b = true) : ∃ c ∈ s.toList, c.val.toNat = b.toNat := by
  rw [encode_eq_flatMap] at hb
  obtain ⟨c, hc, hmem⟩ := List.mem_flatMap.1 hb
  refine ⟨c, hc, ?_⟩
  cases hchar : isAscii c with
  | false =>
      rw [not_isAsciiByte_of_mem hchar hmem] at hascii
      cases hascii
  | true =>
      have hlow : c.val.toNat < 0x80 := of_decide_eq_true hchar
      unfold String.utf8EncodeChar at hmem
      dsimp only at hmem
      rw [if_pos (Nat.le_of_lt_succ hlow), List.mem_singleton] at hmem
      rw [hmem, toNat_ofNat (by omega)]

/-- A character of ASCII is a byte of ASCII, and the bytes of others are beyond it. -/
theorem countP_utf8EncodeChar (c : Char) :
    (String.utf8EncodeChar c).countP isAsciiByte = if isAscii c then 1 else 0 := by
  cases hc : isAscii c with
  | true =>
      have hascii : c.val.toNat < 0x80 := of_decide_eq_true hc
      have hbyte : isAsciiByte (UInt8.ofNat c.val.toNat) = true := by
        refine decide_eq_true ?_
        rw [UInt8.lt_iff_toNat_lt, toNat_ofNat (by omega)]
        exact hascii
      unfold String.utf8EncodeChar
      dsimp only
      rw [if_pos (Nat.le_of_lt_succ hascii), List.countP_singleton, hbyte]
  | false =>
      have hnone : ∀ b ∈ String.utf8EncodeChar c, ¬ isAsciiByte b = true := by
        intro b hb
        rw [not_isAsciiByte_of_mem hc hb]
        exact Bool.false_ne_true
      rw [List.countP_eq_zero.2 hnone]
      rfl

/-- Every character has a byte of its own. -/
theorem length_le_encode (s : String) : s.toList.length ≤ (encode s).length := by
  rw [encode_eq_flatMap]
  induction s.toList with
  | nil => exact Nat.le_refl 0
  | cons c cs ih =>
      have hpos : 0 < (String.utf8EncodeChar c).length := by
        rw [String.length_utf8EncodeChar]
        exact Char.utf8Size_pos c
      rw [List.flatMap_cons, List.length_append, List.length_cons]
      omega

/-- The bytes of ASCII in a text are its characters of ASCII. -/
theorem countP_encode (s : String) : (encode s).countP isAsciiByte = s.toList.countP isAscii := by
  rw [encode_eq_flatMap]
  induction s.toList with
  | nil => rfl
  | cons c cs ih =>
      rw [List.flatMap_cons, List.countP_append, ih, countP_utf8EncodeChar, List.countP_cons,
        Nat.add_comm]

end Fleet.Text
