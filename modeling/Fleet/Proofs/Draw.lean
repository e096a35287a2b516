import Fleet.Proofs.Ident

/-! # Bounded draws

A number below `n` is drawn from one word of 32 bits or from two (`Draw.pick`).  The product of the
word and `n` has 64 bits; its upper half is the number.  Where the lower half is so great that the
product of a second word might carry into the upper one, that word is drawn as well.

* `run_below_eq_pick`: this is what is drawn in numbers; that machine words wrap around never
  changes it.
* `run_below_fst`: two words, read as one of 64 bits, are scaled to `n`.
* `run_below_snd_iff`: a second word is drawn if and only if the number depends on it.
* `IsFrugal`: what is drawn depends only on the words that are counted as drawn. -/

namespace Fleet.Draw

/-! ### Machine words -/

/-- The product of two words of 32 bits, as its upper and its lower half. -/
def wide (a b : UInt32) : UInt32 × UInt32 :=
  let product := a.toUInt64 * b.toUInt64
  ((product >>> 32).toUInt32, product.toUInt32)

/-- A number below `n`, and how many of the two words it takes.  Words wrap around: `-n` is what is
missing from `n` to all of them, and a sum that is less than one of its parts has overflowed. -/
def pick (n first second : UInt32) : UInt32 × Nat :=
  let (high, low) := wide first n
  if -n < low then
    let upper := (wide second n).1
    (if low + upper < low then high + 1 else high, 2)
  else (high, 1)

theorem toNat_pos {n : UInt32} (h : n ≠ 0) : 0 < n.toNat :=
  Nat.pos_of_ne_zero (fun hzero => h (UInt32.toNat_inj.1 hzero))

/-- The product fits into 64 bits. -/
theorem toNat_mul_toUInt64 (a b : UInt32) :
    (a.toUInt64 * b.toUInt64).toNat = a.toNat * b.toNat := by
  rw [UInt64.toNat_mul, UInt32.toNat_toUInt64, UInt32.toNat_toUInt64]
  apply Nat.mod_eq_of_lt
  calc a.toNat * b.toNat < 2 ^ 32 * 2 ^ 32 :=
        Nat.mul_lt_mul_of_lt_of_lt a.toNat_lt b.toNat_lt
    _ = 2 ^ 64 := rfl

theorem toNat_wide_fst (a b : UInt32) : (wide a b).1.toNat = a.toNat * b.toNat / 2 ^ 32 := by
  have hlt : a.toNat * b.toNat / 2 ^ 32 < 2 ^ 32 := by
    apply Nat.div_lt_of_lt_mul
    exact Nat.mul_lt_mul_of_lt_of_lt a.toNat_lt b.toNat_lt
  unfold wide
  rw [UInt64.toNat_toUInt32, UInt64.toNat_shiftRight, toNat_mul_toUInt64]
  exact (congrArg (· % 2 ^ 32) (Nat.shiftRight_eq_div_pow _ _)).trans (Nat.mod_eq_of_lt hlt)

theorem toNat_wide_snd (a b : UInt32) : (wide a b).2.toNat = a.toNat * b.toNat % 2 ^ 32 := by
  unfold wide
  rw [UInt64.toNat_toUInt32, toNat_mul_toUInt64]

/-- The upper half of the product is below each factor. -/
theorem wide_fst_lt {n : UInt32} (h : n ≠ 0) (a : UInt32) : (wide a n).1.toNat < n.toNat := by
  rw [toNat_wide_fst]
  apply Nat.div_lt_of_lt_mul
  exact Nat.mul_lt_mul_of_pos_right a.toNat_lt (toNat_pos h)

/-- A sum wraps around if and only if it is less than one of its parts. -/
theorem add_lt_iff (a b : UInt32) : a + b < a ↔ 2 ^ 32 ≤ a.toNat + b.toNat := by
  have ha := a.toNat_lt
  have hb := b.toNat_lt
  rw [UInt32.lt_iff_toNat_lt, UInt32.toNat_add]
  omega

theorem neg_lt_iff {n : UInt32} (h : n ≠ 0) (a : UInt32) :
    -n < a ↔ 2 ^ 32 < a.toNat + n.toNat := by
  have hpos := toNat_pos h
  have hn := n.toNat_lt
  rw [UInt32.lt_iff_toNat_lt, UInt32.toNat_neg, UInt32.size]
  omega

/-! ### The number that is drawn -/

/-- The number is open after the first word: another one may carry into it. -/
def IsOpen (n first : UInt32) : Prop :=
  2 ^ 32 < first.toNat * n.toNat % 2 ^ 32 + n.toNat

instance (n first : UInt32) : Decidable (IsOpen n first) := inferInstanceAs (Decidable (_ < _))

section Pick

variable {n : UInt32} (h : n ≠ 0) (first second : UInt32)
include h

theorem neg_lt_wide_iff : -n < (wide first n).2 ↔ IsOpen n first := by
  rw [neg_lt_iff h, toNat_wide_snd]
  exact Iff.rfl

theorem pick_snd : (pick n first second).2 = if IsOpen n first then 2 else 1 := by
  have hopen := neg_lt_wide_iff h first
  unfold pick
  dsimp only
  split
  · next hneg => rw [if_pos (hopen.1 hneg)]
  · next hneg => rw [if_neg (hopen.not.1 hneg)]

/-- Machine words stay in range, and a word that is not drawn would carry nothing. -/
theorem pick_fst :
    (pick n first second).1.toNat = first.toNat * n.toNat / 2 ^ 32 +
      (first.toNat * n.toNat % 2 ^ 32 + second.toNat * n.toNat / 2 ^ 32) / 2 ^ 32 := by
  have hn := n.toNat_lt
  have hlow := (wide first n).2.toNat_lt
  have hhigh := wide_fst_lt h first
  have hupper := wide_fst_lt h second
  rw [← toNat_wide_fst first n, ← toNat_wide_snd first n, ← toNat_wide_fst second n]
  unfold pick
  dsimp only
  split
  · dsimp only
    split
    · next hover =>
        rw [add_lt_iff] at hover
        rw [UInt32.toNat_add, UInt32.toNat_one]
        omega
    · next hover =>
        rw [add_lt_iff] at hover
        omega
  · next hneg =>
      rw [neg_lt_iff h] at hneg
      dsimp only
      omega

/-- Both words are read as one of 64 bits and scaled to `n`. -/
theorem toNat_pick :
    (pick n first second).1.toNat =
      (first.toNat * 2 ^ 32 + second.toNat) * n.toNat / 2 ^ 64 := by
  rw [pick_fst h, Nat.add_mul, Nat.mul_right_comm]
  omega

theorem pick_fst_of_not_isOpen (hopen : ¬ IsOpen n first) :
    (pick n first second).1.toNat = first.toNat * n.toNat / 2 ^ 32 := by
  have hupper := (toNat_wide_fst second n).symm.trans_lt (wide_fst_lt h second)
  unfold IsOpen at hopen
  rw [pick_fst h]
  omega

/-- The least word does not carry into an open number, and the greatest one does. -/
theorem pick_fst_ne_of_isOpen (hopen : IsOpen n first) :
    (pick n first 0).1 ≠ (pick n first 4294967295).1 := by
  have hn := n.toNat_lt
  have hlow := Nat.mod_lt (first.toNat * n.toNat) (y := 2 ^ 32) (by decide)
  have hleast : (0 : UInt32).toNat * n.toNat / 2 ^ 32 = 0 := by simp
  have hgreatest : (4294967295 : UInt32).toNat * n.toNat / 2 ^ 32 = n.toNat - 1 := by
    have hword : (4294967295 : UInt32).toNat = 4294967295 := rfl
    rw [hword]
    omega
  unfold IsOpen at hopen
  rw [← UInt32.toNat_inj.ne, pick_fst h first 0, pick_fst h first 4294967295, hleast, hgreatest]
  omega

/-- A second word is drawn if and only if the number depends on it. -/
theorem pick_snd_eq_two_iff :
    (pick n first second).2 = 2 ↔
      ∃ other, (pick n first other).1 ≠ (pick n first second).1 := by
  rw [pick_snd h]
  by_cases hopen : IsOpen n first
  · rw [if_pos hopen, eq_self_iff_true, true_iff]
    by_cases hsecond : (pick n first 0).1 = (pick n first second).1
    · exact ⟨4294967295, fun hsame => pick_fst_ne_of_isOpen h first hopen
        (hsecond.trans hsame.symm)⟩
    · exact ⟨0, hsecond⟩
  · rw [if_neg hopen]
    refine iff_of_false (by decide) ?_
    rintro ⟨other, hother⟩
    apply hother
    apply UInt32.toNat_inj.1
    rw [pick_fst_of_not_isOpen h first other hopen, pick_fst_of_not_isOpen h first second hopen]

end Pick

/-! ### Draws from a stream -/

theorem run_below_eq_pick {n : UInt32} (h : n ≠ 0) (words : Nat → UInt32) (used : Nat) :
    ((below n.toNat).run words).run used =
      ((pick n (words used) (words (used + 1))).1.toNat,
        used + (pick n (words used) (words (used + 1))).2) := by
  have hbound : wordBound = 2 ^ 32 := rfl
  rw [Ident.run_below, hbound, pick_snd h]
  dsimp only
  by_cases hopen : IsOpen n (words used)
  · rw [pick_fst h, if_pos hopen]
    exact if_pos hopen
  · rw [pick_fst_of_not_isOpen h _ _ hopen, if_neg hopen]
    exact if_neg hopen

/-- Two words of the stream, read as one of 64 bits, are scaled to `n`. -/
theorem run_below_fst {n : UInt32} (h : n ≠ 0) (words : Nat → UInt32) (used : Nat) :
    (((below n.toNat).run words).run used).1 =
      ((words used).toNat * 2 ^ 32 + (words (used + 1)).toNat) * n.toNat / 2 ^ 64 := by
  rw [run_below_eq_pick h, toNat_pick h]

/-- No word is wasted: where a second one is drawn, another one would give another number. -/
theorem run_below_snd_iff {n : UInt32} (h : n ≠ 0) (words : Nat → UInt32) (used : Nat) :
    (((below n.toNat).run words).run used).2 = used + 2 ↔
      ∃ others : Nat → UInt32, others used = words used ∧
        (((below n.toNat).run others).run used).1 ≠ (((below n.toNat).run words).run used).1 := by
  have htwo : ∀ taken, used + taken = used + 2 ↔ taken = 2 := fun taken => Nat.add_left_cancel_iff
  rw [run_below_eq_pick h words used, htwo, pick_snd_eq_two_iff h]
  constructor
  · rintro ⟨other, hother⟩
    have hplaces : used ≠ used + 1 := Nat.ne_of_lt (Nat.lt_succ_self used)
    refine ⟨Function.update words (used + 1) other, Function.update_of_ne hplaces _ _, ?_⟩
    rw [run_below_eq_pick h, Function.update_of_ne hplaces, Function.update_self]
    exact UInt32.toNat_inj.not.2 hother
  · rintro ⟨others, hsame, hother⟩
    rw [run_below_eq_pick h others used, hsame] at hother
    exact ⟨others (used + 1), UInt32.toNat_inj.not.1 hother⟩

/-- What is drawn depends only on the words from the present one up to where the next draw begins,
so on no word that is not counted. -/
structure IsFrugal {α : Type} (d : Draw α) : Prop where
  advances : ∀ words used, used ≤ ((d.run words).run used).2
  congr : ∀ words others used,
    (∀ i, used ≤ i → i < ((d.run words).run used).2 → others i = words i) →
      (d.run others).run used = (d.run words).run used

section Frugal

variable {α β : Type}

theorem isFrugal_pure (a : α) : IsFrugal (pure a : Draw α) :=
  ⟨fun _ used => Nat.le_refl used, fun _ _ _ _ => rfl⟩

theorem isFrugal_word : IsFrugal word where
  advances _ used := Nat.le_succ used
  congr _ _ used h :=
    congrArg (fun w : UInt32 => (w.toNat, used + 1))
      (h used (Nat.le_refl used) (Nat.lt_succ_self used))

theorem IsFrugal.bind {d : Draw α} {f : α → Draw β} (hd : IsFrugal d)
    (hf : ∀ a, IsFrugal (f a)) : IsFrugal (d >>= f) where
  advances words used := by
    rw [Ident.run_bind]
    exact Nat.le_trans (hd.advances words used) ((hf _).advances words _)
  congr words others used h := by
    rw [Ident.run_bind] at h
    rw [Ident.run_bind, Ident.run_bind]
    have hfirst : (d.run others).run used = (d.run words).run used := by
      apply hd.congr
      intro i hle hlt
      exact h i hle (Nat.lt_of_lt_of_le hlt ((hf _).advances words _))
    rw [hfirst]
    apply (hf _).congr
    intro i hle hlt
    exact h i (Nat.le_trans (hd.advances words used) hle) hlt

theorem IsFrugal.ite {c : Prop} [Decidable c] {d e : Draw α} (hd : IsFrugal d)
    (he : IsFrugal e) : IsFrugal (if c then d else e) := by
  split
  · exact hd
  · exact he

theorem isFrugal_below (n : Nat) : IsFrugal (below n) := by
  unfold below
  apply isFrugal_word.bind
  intro first
  apply IsFrugal.ite
  · apply isFrugal_word.bind
    intro second
    exact isFrugal_pure _
  · exact isFrugal_pure _

theorem isFrugal_item (items : List String) (other : String) : IsFrugal (item items other) := by
  unfold item
  apply IsFrugal.ite
  · exact isFrugal_pure other
  · apply (isFrugal_below items.length).bind
    intro i
    exact isFrugal_pure _

end Frugal

end Fleet.Draw
