import Fleet.Proofs.Text.Utf8

/-! # The order of texts

Texts are compared character by character, and so are their bytes: characters with fewer bytes come
first, and of those with as many bytes the one with the smaller first byte that differs.  So a text
comes before another one just if its bytes do (`encode_lt_encode_iff`). -/

namespace Fleet.Text

theorem ofNat_cons_lt_iff {m n : Nat} (hm : m < 256) (hn : n < 256) {s t : List UInt8} :
    UInt8.ofNat m :: s < UInt8.ofNat n :: t ↔ m < n ∨ m = n ∧ s < t := by
  rw [List.cons_lt_cons_iff, UInt8.lt_iff_toNat_lt, ← UInt8.toNat_inj, toNat_ofNat hm, toNat_ofNat hn]

/-- Of two numbers the smaller one has the smaller group of six bits where they differ first. -/
theorem sextets_lt {v w : Nat} (h : v < w) :
    v / 262144 < w / 262144 ∨ v / 262144 = w / 262144 ∧
      (v / 4096 % 64 < w / 4096 % 64 ∨ v / 4096 % 64 = w / 4096 % 64 ∧
        (v / 64 % 64 < w / 64 % 64 ∨ v / 64 % 64 = w / 64 % 64 ∧ v % 64 < w % 64)) := by
  rcases Nat.lt_or_ge (v / 64) (w / 64) with hlt | hge
  · rcases Nat.lt_or_ge (v / 4096) (w / 4096) with hlt' | hge' <;> omega
  · omega

/-- The bytes of the smaller character come first, whatever follows either. -/
theorem utf8EncodeChar_append_lt {c d : Char} (h : c < d) (s t : List UInt8) :
    String.utf8EncodeChar c ++ s < String.utf8EncodeChar d ++ t := by
  have hlt : c.val.toNat < d.val.toNat := h
  have hc : c.val.toNat < 0xD800 ∨ 0xDFFF < c.val.toNat ∧ c.val.toNat < 0x110000 := c.valid
  have hd : d.val.toNat < 0xD800 ∨ 0xDFFF < d.val.toNat ∧ d.val.toNat < 0x110000 := d.valid
  have hsextets := sextets_lt hlt
  have hctop : c.val.toNat / 262144 % 8 = c.val.toNat / 262144 := Nat.mod_eq_of_lt (by omega)
  have hdtop : d.val.toNat / 262144 % 8 = d.val.toNat / 262144 := Nat.mod_eq_of_lt (by omega)
  unfold String.utf8EncodeChar
  dsimp only
  -- one case for each number of bytes of either
  split_ifs <;> simp (disch := omega) only [List.cons_append, List.nil_append, ofNat_cons_lt_iff] <;>
    omega

theorem append_lt_append_iff (bs : List UInt8) {s t : List UInt8} : bs ++ s < bs ++ t ↔ s < t := by
  induction bs with
  | nil => rfl
  | cons b bs ih =>
      rw [List.cons_append, List.cons_append, List.cons_lt_cons_iff, ih]
      exact ⟨fun h => (h.resolve_left (UInt8.lt_irrefl b)).2, fun h => Or.inr ⟨rfl, h⟩⟩

theorem flatMap_lt_flatMap_iff {cs ds : List Char} :
    cs.flatMap String.utf8EncodeChar < ds.flatMap String.utf8EncodeChar ↔ cs < ds := by
  induction cs generalizing ds with
  | nil =>
      cases ds with
      | nil => simp
      | cons d ds =>
          obtain ⟨b, bs, hbytes⟩ := List.exists_cons_of_ne_nil (String.utf8EncodeChar_ne_nil (c := d))
          simp [hbytes]
  | cons c cs ih =>
      cases ds with
      | nil => simp
      | cons d ds =>
          rw [List.flatMap_cons, List.flatMap_cons, List.cons_lt_cons_iff]
          rcases Std.lt_trichotomy c d with hlt | rfl | hgt
          · exact iff_of_true (utf8EncodeChar_append_lt hlt _ _) (Or.inl hlt)
          · rw [append_lt_append_iff, ih]
            exact ⟨fun h => Or.inr ⟨rfl, h⟩, fun h => (h.resolve_left (Std.lt_irrefl)).2⟩
          · refine iff_of_false (List.lt_asymm (utf8EncodeChar_append_lt hgt _ _)) ?_
            rintro (hlt | ⟨rfl, -⟩)
            · exact Char.lt_asymm hlt hgt
            · exact Std.lt_irrefl hgt

/-- A text comes before another one if its bytes do. -/
theorem encode_lt_encode_iff {s t : String} : encode s < encode t ↔ s < t := by
  rw [encode_eq_flatMap, encode_eq_flatMap, flatMap_lt_flatMap_iff, String.lt_iff]

end Fleet.Text
