import Fleet.Proofs.Text.Utf8

/-! # Strict reading

A text is read from its own bytes and from no others (`decode?_eq_some_iff`): where a character is
read, its bytes stand there (`exists_of_piecesFrom`). -/

namespace Fleet.Text

/-! ### The bytes within a character -/

section Within

variable {value seen : Nat} {low high : UInt8} {bytes : List UInt8} {c : Char} {ps : List Piece}

/-- Within a character only a byte that may follow leads to it. -/
theorem exists_next {left : Nat}
    (h : piecesFrom (.more value seen left low high) bytes = .char c :: ps) :
    ∃ b rest, bytes = b :: rest ∧ low ≤ b ∧ b ≤ high := by
  cases bytes with
  | nil => cases h
  | cons b rest =>
      by_cases hb : low ≤ b ∧ b ≤ high
      · exact ⟨b, rest, rfl, hb⟩
      · simp only [piecesFrom, Pending.step, if_neg hb] at h
        cases h

theorem exists_last (h : piecesFrom (.more value seen 0 low high) bytes = .char c :: ps) :
    ∃ b rest, bytes = b :: rest ∧ (low ≤ b ∧ b ≤ high) ∧
      c = Char.ofNat (value * 64 + (b.toNat - 0x80)) ∧ piecesFrom .start rest = ps := by
  obtain ⟨b, rest, rfl, hb⟩ := exists_next h
  rw [piecesFrom_last hb] at h
  obtain ⟨hc, hrest⟩ := List.cons.inj h
  exact ⟨b, rest, rfl, hb, (Piece.char.inj hc).symm, hrest⟩

theorem exists_last_two (h : piecesFrom (.more value seen 1 low high) bytes = .char c :: ps) :
    ∃ b b' rest, bytes = b :: b' :: rest ∧ (low ≤ b ∧ b ≤ high) ∧ (0x80 ≤ b' ∧ b' ≤ 0xBF) ∧
      c = Char.ofNat ((value * 64 + (b.toNat - 0x80)) * 64 + (b'.toNat - 0x80)) ∧
      piecesFrom .start rest = ps := by
  obtain ⟨b, rest, rfl, hb⟩ := exists_next h
  rw [piecesFrom_next hb] at h
  obtain ⟨b', rest, rfl, hb', hc, hrest⟩ := exists_last h
  exact ⟨b, b', rest, rfl, hb, hb', hc, hrest⟩

theorem exists_last_three (h : piecesFrom (.more value seen 2 low high) bytes = .char c :: ps) :
    ∃ b b' b'' rest, bytes = b :: b' :: b'' :: rest ∧ (low ≤ b ∧ b ≤ high) ∧
      (0x80 ≤ b' ∧ b' ≤ 0xBF) ∧ (0x80 ≤ b'' ∧ b'' ≤ 0xBF) ∧
      c = Char.ofNat (((value * 64 + (b.toNat - 0x80)) * 64 + (b'.toNat - 0x80)) * 64 +
        (b''.toNat - 0x80)) ∧
      piecesFrom .start rest = ps := by
  obtain ⟨b, rest, rfl, hb⟩ := exists_next h
  rw [piecesFrom_next hb] at h
  obtain ⟨b', b'', rest, rfl, hb', hb'', hc, hrest⟩ := exists_last_two h
  exact ⟨b, b', b'', rest, rfl, hb, hb', hb'', hc, hrest⟩

end Within

/-! ### The bytes of a character -/

section Bytes

variable {value : Nat} {a b b' b'' : UInt8}

theorem val_ofNat {v : Nat} (h : v < 0xD800 ∨ 0xDFFF < v ∧ v < 0x110000) :
    (Char.ofNat v).val.toNat = v := by
  have hvalid : v.isValidChar := h
  unfold Char.ofNat
  rw [dif_pos hvalid]
  rfl

theorem ofNat_eq {n : Nat} (h : n = b.toNat) : UInt8.ofNat n = b := by
  rw [h, UInt8.ofNat_toNat]

theorem utf8EncodeChar_one (ha : a.toNat < 0x80) :
    String.utf8EncodeChar (Char.ofNat a.toNat) = [a] := by
  have hval := val_ofNat (v := a.toNat) (by omega)
  unfold String.utf8EncodeChar
  dsimp only
  rw [hval, if_pos (by omega), ofNat_eq rfl]

theorem utf8EncodeChar_two (ha : 0xC2 ≤ a.toNat ∧ a.toNat < 0xE0) (hvalue : value = a.toNat - 0xC0)
    (hb : 0x80 ≤ b.toNat ∧ b.toNat ≤ 0xBF) :
    String.utf8EncodeChar (Char.ofNat (value * 64 + (b.toNat - 0x80))) = [a, b] := by
  have hval := val_ofNat (v := value * 64 + (b.toNat - 0x80)) (by omega)
  unfold String.utf8EncodeChar
  dsimp only
  rw [hval, if_neg (by omega), if_pos (by omega), ofNat_eq (b := a) (by omega),
    ofNat_eq (b := b) (by omega)]

theorem utf8EncodeChar_three (ha : 0xE0 ≤ a.toNat ∧ a.toNat < 0xF0)
    (hvalue : value = a.toNat - 0xE0) (hb : 0x80 ≤ b.toNat ∧ b.toNat ≤ 0xBF)
    (hb' : 0x80 ≤ b'.toNat ∧ b'.toNat ≤ 0xBF) (hlow : a.toNat = 0xE0 → 0xA0 ≤ b.toNat)
    (hhigh : a.toNat = 0xED → b.toNat ≤ 0x9F) :
    String.utf8EncodeChar (Char.ofNat ((value * 64 + (b.toNat - 0x80)) * 64 + (b'.toNat - 0x80))) =
      [a, b, b'] := by
  have hval := val_ofNat (v := (value * 64 + (b.toNat - 0x80)) * 64 + (b'.toNat - 0x80)) (by omega)
  unfold String.utf8EncodeChar
  dsimp only
  rw [hval, if_neg (by omega), if_neg (by omega), if_pos (by omega), ofNat_eq (b := a) (by omega),
    ofNat_eq (b := b) (by omega), ofNat_eq (b := b') (by omega)]

theorem utf8EncodeChar_four (ha : 0xF0 ≤ a.toNat ∧ a.toNat ≤ 0xF4)
    (hvalue : value = a.toNat - 0xF0) (hb : 0x80 ≤ b.toNat ∧ b.toNat ≤ 0xBF)
    (hb' : 0x80 ≤ b'.toNat ∧ b'.toNat ≤ 0xBF) (hb'' : 0x80 ≤ b''.toNat ∧ b''.toNat ≤ 0xBF)
    (hlow : a.toNat = 0xF0 → 0x90 ≤ b.toNat) (hhigh : a.toNat = 0xF4 → b.toNat ≤ 0x8F) :
    String.utf8EncodeChar (Char.ofNat (((value * 64 + (b.toNat - 0x80)) * 64 +
      (b'.toNat - 0x80)) * 64 + (b''.toNat - 0x80))) = [a, b, b', b''] := by
  have hval := val_ofNat (v := ((value * 64 + (b.toNat - 0x80)) * 64 + (b'.toNat - 0x80)) * 64 +
    (b''.toNat - 0x80)) (by omega)
  unfold String.utf8EncodeChar
  dsimp only
  rw [hval, if_neg (by omega), if_neg (by omega), if_neg (by omega), ofNat_eq (b := a) (by omega),
    ofNat_eq (b := b) (by omega), ofNat_eq (b := b') (by omega), ofNat_eq (b := b'') (by omega)]

end Bytes

/-! ### Reading -/

section Reading

variable {rest : List UInt8} {c : Char} {ps : List Piece}

/-- A byte between two bounds lies between what the bounds lie between. -/
theorem toNat_mem {low high b : UInt8} (least greatest : Nat) (hb : low ≤ b ∧ b ≤ high)
    (hlow : least ≤ low.toNat) (hhigh : high.toNat ≤ greatest) :
    least ≤ b.toNat ∧ b.toNat ≤ greatest :=
  ⟨hlow.trans (UInt8.le_iff_toNat_le.1 hb.1), (UInt8.le_iff_toNat_le.1 hb.2).trans hhigh⟩

theorem exists_of_two {a low high : UInt8} {value seen : Nat}
    (ha : 0xC2 ≤ a.toNat ∧ a.toNat < 0xE0) (hvalue : value = a.toNat - 0xC0)
    (hlow : 0x80 ≤ low.toNat) (hhigh : high.toNat ≤ 0xBF)
    (h : piecesFrom (.more value seen 0 low high) rest = .char c :: ps) :
    ∃ rest', a :: rest = String.utf8EncodeChar c ++ rest' ∧ piecesFrom .start rest' = ps := by
  obtain ⟨b, rest, rfl, hb, hc, hrest⟩ := exists_last h
  have hchar := utf8EncodeChar_two ha hvalue (toNat_mem 0x80 0xBF hb hlow hhigh)
  exact ⟨rest, by rw [hc, hchar]; rfl, hrest⟩

theorem exists_of_three {a low high : UInt8} {value seen : Nat} (least greatest : Nat)
    (ha : 0xE0 ≤ a.toNat ∧ a.toNat < 0xF0) (hvalue : value = a.toNat - 0xE0)
    (hlow : least ≤ low.toNat) (hhigh : high.toNat ≤ greatest)
    (hleast : 0x80 ≤ least ∧ (a.toNat = 0xE0 → 0xA0 ≤ least))
    (hgreatest : greatest ≤ 0xBF ∧ (a.toNat = 0xED → greatest ≤ 0x9F))
    (h : piecesFrom (.more value seen 1 low high) rest = .char c :: ps) :
    ∃ rest', a :: rest = String.utf8EncodeChar c ++ rest' ∧ piecesFrom .start rest' = ps := by
  obtain ⟨b, b', rest, rfl, hb, hb', hc, hrest⟩ := exists_last_two h
  have hb := toNat_mem least greatest hb hlow hhigh
  have hb' := toNat_mem 0x80 0xBF hb' (by decide) (by decide)
  have hchar := utf8EncodeChar_three (b := b) ha hvalue (by omega) hb' (by omega) (by omega)
  exact ⟨rest, by rw [hc, hchar]; rfl, hrest⟩

theorem exists_of_four {a low high : UInt8} {value seen : Nat} (least greatest : Nat)
    (ha : 0xF0 ≤ a.toNat ∧ a.toNat ≤ 0xF4) (hvalue : value = a.toNat - 0xF0)
    (hlow : least ≤ low.toNat) (hhigh : high.toNat ≤ greatest)
    (hleast : 0x80 ≤ least ∧ (a.toNat = 0xF0 → 0x90 ≤ least))
    (hgreatest : greatest ≤ 0xBF ∧ (a.toNat = 0xF4 → greatest ≤ 0x8F))
    (h : piecesFrom (.more value seen 2 low high) rest = .char c :: ps) :
    ∃ rest', a :: rest = String.utf8EncodeChar c ++ rest' ∧ piecesFrom .start rest' = ps := by
  obtain ⟨b, b', b'', rest, rfl, hb, hb', hb'', hc, hrest⟩ := exists_last_three h
  have hb := toNat_mem least greatest hb hlow hhigh
  have hb' := toNat_mem 0x80 0xBF hb' (by decide) (by decide)
  have hb'' := toNat_mem 0x80 0xBF hb'' (by decide) (by decide)
  have hchar := utf8EncodeChar_four (b := b) ha hvalue (by omega) hb' hb'' (by omega) (by omega)
  exact ⟨rest, by rw [hc, hchar]; rfl, hrest⟩

/-- What the first of several bytes announces is a character whose bytes follow it. -/
theorem exists_of_ofFirst {a : UInt8} {p : Pending} (hfirst : Pending.ofFirst a = some p)
    (h : piecesFrom p rest = .char c :: ps) :
    ∃ rest', a :: rest = String.utf8EncodeChar c ++ rest' ∧ piecesFrom .start rest' = ps := by
  have ha : a = UInt8.ofNat a.toNat := (UInt8.ofNat_toNat).symm
  rw [ha, ofFirst_ofNat a.toNat_lt] at hfirst
  -- it says how many bytes follow, and between which bounds the next one lies
  split_ifs at hfirst <;> cases hfirst
  · exact exists_of_two (by omega) rfl (by decide) (by decide) h
  · exact exists_of_three 0xA0 0xBF (by omega) (by omega) (by decide)
      (by decide) (by omega) (by omega) h
  · exact exists_of_three 0x80 0x9F (by omega) (by omega) (by decide)
      (by decide) (by omega) (by omega) h
  · exact exists_of_three 0x80 0xBF (by omega) rfl (by decide)
      (by decide) (by omega) (by omega) h
  · exact exists_of_four 0x90 0xBF (by omega) (by omega) (by decide)
      (by decide) (by omega) (by omega) h
  · exact exists_of_four 0x80 0xBF (by omega) rfl (by decide)
      (by decide) (by omega) (by omega) h
  · exact exists_of_four 0x80 0x8F (by omega) (by omega) (by decide)
      (by decide) (by omega) (by omega) h

/-- Where a character is read, there are its bytes. -/
theorem exists_of_piecesFrom {bytes : List UInt8} (h : piecesFrom .start bytes = .char c :: ps) :
    ∃ rest, bytes = String.utf8EncodeChar c ++ rest ∧ piecesFrom .start rest = ps := by
  cases bytes with
  | nil => cases h
  | cons a rest =>
      by_cases hascii : a < 0x80
      · simp only [piecesFrom, Pending.step, Pending.first, if_pos hascii, List.cons_append,
          List.nil_append] at h
        obtain ⟨hc, hrest⟩ := List.cons.inj h
        obtain rfl := Piece.char.inj hc
        refine ⟨rest, ?_, hrest⟩
        rw [utf8EncodeChar_one (UInt8.lt_iff_toNat_lt.1 hascii), List.singleton_append]
      cases hfirst : Pending.ofFirst a with
      | none =>
          simp only [piecesFrom, Pending.step, Pending.first, if_neg hascii, hfirst] at h
          cases h
      | some p => exact exists_of_ofFirst hfirst (piecesFrom_first hascii hfirst ▸ h)

theorem eq_flatMap_of_piecesFrom {cs : List Char} {bytes : List UInt8}
    (h : piecesFrom .start bytes = cs.map .char) : bytes = cs.flatMap String.utf8EncodeChar := by
  induction cs generalizing bytes with
  | nil => exact (piecesFrom_eq_nil h).2
  | cons c cs ih =>
      obtain ⟨rest, rfl, hrest⟩ := exists_of_piecesFrom h
      rw [List.flatMap_cons, ← ih hrest]

theorem map_char_of_mapM {ps : List Piece} {cs : List Char} (h : ps.mapM Piece.char? = some cs) :
    ps = cs.map .char := by
  induction ps generalizing cs with
  | nil =>
      cases h
      rfl
  | cons p ps ih =>
      rw [List.mapM_cons] at h
      obtain ⟨c, hc, h⟩ := Option.bind_eq_some_iff.1 h
      obtain ⟨cs', hcs, h⟩ := Option.bind_eq_some_iff.1 h
      cases h
      rw [List.map_cons, ← ih hcs]
      cases p with
      | char c' => cases hc; rfl
      | broken n => cases hc

theorem mapM_char (cs : List Char) : (cs.map Piece.char).mapM Piece.char? = some cs := by
  induction cs with
  | nil => rfl
  | cons c cs ih =>
      rw [List.map_cons, List.mapM_cons, ih]
      rfl

/-- A text is read from its bytes only. -/
theorem decode?_eq_some_iff {bytes : List UInt8} {s : String} :
    decode? bytes = some s ↔ bytes = encode s := by
  rw [encode_eq_flatMap]
  constructor
  · intro h
    obtain ⟨cs, hcs, rfl⟩ := Option.map_eq_some_iff.1 h
    rw [String.toList_ofList]
    exact eq_flatMap_of_piecesFrom (map_char_of_mapM hcs)
  · rintro rfl
    unfold decode? pieces
    rw [piecesFrom_chars, mapM_char, Option.map_some, String.ofList_toList]

end Reading
end Fleet.Text
