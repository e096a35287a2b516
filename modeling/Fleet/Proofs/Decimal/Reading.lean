import Fleet.Decimal.Reading
import Fleet.Proofs.Decimal.Shortest

/-! # Decimals that are read as the nearest number

The quick way to read a decimal rounds up to three times: what the digits write, the power of ten, and
their product or quotient.  Of few digits and a small power of ten the first two are binary64 numbers
themselves, and only the last rounding is left.  So a decimal of this kind that rounds to a number reads
as the number (`Double.ofDigits?_eq_some`). -/

namespace Fleet.Decimal

/-! ### Gathered digits -/

theorem le_ofDigitChars (ds : List Char) (n : Nat) : n ≤ Nat.ofDigitChars 10 ds n := by
  induction ds generalizing n with
  | nil => exact Nat.le_refl n
  | cons c cs ih =>
      rw [Nat.ofDigitChars_cons]
      have := ih (10 * n + (c.toNat - '0'.toNat))
      omega

/-- Digits that fit 64 bits are all gathered. -/
theorem takeDigits_eq {ds : List Char} {n : Nat} (h : Nat.ofDigitChars 10 ds n < wordLimit) :
    takeDigits n ds = (Nat.ofDigitChars 10 ds n, []) := by
  induction ds generalizing n with
  | nil => rfl
  | cons c cs ih =>
      rw [Nat.ofDigitChars_cons] at h ⊢
      have hnext : n * 10 + (c.toNat - '0'.toNat) = 10 * n + (c.toNat - '0'.toNat) := by omega
      have hlt := (le_ofDigitChars cs _).trans_lt h
      unfold takeDigits
      dsimp only
      rw [hnext, if_pos hlt]
      exact ih h

namespace Double

variable {d : Double}

/-! ### Numbers that are exact -/

theorem num_div_den (d : Double) : (d.num : ℚ) / d.den = d.magnitude := by
  unfold num den magnitude
  rw [zpow_eq_div two_ne_zero d.exponent]
  push_cast [natCast_pow]
  rw [mul_div_assoc]

theorem den_ne_zero (d : Double) : d.den ≠ 0 := (Nat.pow_pos (by decide)).ne'

theorem num_ne_zero (hpos : 0 < d.significand) : d.num ≠ 0 :=
  Nat.mul_ne_zero hpos.ne' (Nat.pow_pos (by decide)).ne'

/-- A number lies in its own interval. -/
theorem contains_magnitude (hpos : 0 < d.significand) : d.interval.Contains d.magnitude := by
  have hunit : (0 : ℚ) < 2 ^ d.interval.unit := by positivity
  have hlow := d.low_interval hpos
  have hvalue : d.interval.value = 4 * d.significand := rfl
  have hhigh : d.interval.high = 4 * d.significand + 2 := rfl
  unfold magnitude
  rw [← d.value_interval]
  refine Interval.contains_of_lt (mul_lt_mul_of_pos_right ?_ hunit)
    (mul_lt_mul_of_pos_right ?_ hunit)
  · rw [hlow, hvalue]
    push_cast
    split <;> linarith
  · rw [hvalue, hhigh]
    push_cast
    linarith

/-- A number is nearest to itself. -/
theorem nearest?_of_magnitude (hpos : 0 < d.significand) {num den : Nat} (hden : den ≠ 0)
    (h : (num : ℚ) / den = d.magnitude) : nearest? d.negative num den = some d :=
  nearest?_eq_some hpos hden (h ▸ contains_magnitude hpos)

/-- A natural number of at most 53 bits, times a power of two, is a binary64 number. -/
theorem exists_nearest? (negative : Bool) {m k : Nat} (hpos : 0 < m) (hm : m < 2 * leastFull)
    (hk : k ≤ 900) : ∃ d : Double, nearest? negative (m * 2 ^ k) 1 = some d ∧
      d.negative = negative ∧ 0 < d.significand ∧ d.magnitude = m * 2 ^ k := by
  have hlog : m.log2 ≤ 52 := Nat.le_of_lt_succ ((Nat.log2_lt hpos.ne').2 hm)
  have hlow : 2 ^ m.log2 ≤ m := Nat.log2_self_le hpos.ne'
  have hhigh : m < 2 ^ (m.log2 + 1) := Nat.lt_log2_self
  -- the significand has all of its 53 bits
  obtain ⟨shift, hshift⟩ : ∃ shift, m.log2 + shift = 52 := Nat.exists_eq_add_of_le hlog |>.imp
    fun _ h => h.symm
  have hpow : 0 < 2 ^ shift := Nat.two_pow_pos shift
  have hfull : leastFull ≤ m * 2 ^ shift := by
    calc leastFull = 2 ^ m.log2 * 2 ^ shift := by rw [← Nat.pow_add, hshift]; rfl
      _ ≤ m * 2 ^ shift := Nat.mul_le_mul_right _ hlow
  have hlt : m * 2 ^ shift < 2 * leastFull := by
    calc m * 2 ^ shift < 2 ^ (m.log2 + 1) * 2 ^ shift := Nat.mul_lt_mul_of_pos_right hhigh hpow
      _ = 2 * leastFull := by rw [← Nat.pow_add, Nat.add_right_comm, hshift]; rfl
  obtain ⟨d, hd⟩ : ∃ d : Double, d = ⟨negative, m * 2 ^ shift, (k : ℤ) - shift,
      hlt, by omega, by omega, Or.inl hfull⟩ := ⟨_, rfl⟩
  have hsignificand : 0 < d.significand := by
    rw [hd]
    exact Nat.mul_pos hpos hpow
  have hmagnitude : d.magnitude = m * 2 ^ k := by
    rw [hd]
    unfold magnitude
    push_cast
    rw [zpow_sub₀ two_ne_zero, zpow_natCast, zpow_natCast, mul_assoc]
    congr 1
    field_simp
  have hnegative : d.negative = negative := by rw [hd]
  refine ⟨d, ?_, hnegative, hsignificand, hmagnitude⟩
  rw [← hnegative]
  refine nearest?_of_magnitude hsignificand one_ne_zero ?_
  rw [hmagnitude]
  push_cast
  exact div_one _

/-- Small powers of ten are binary64 numbers. -/
theorem exists_ten? {n : Nat} (hn : n ≤ 22) :
    ∃ t : Double, ten? n = some t ∧ 0 < t.significand ∧ t.magnitude = 10 ^ n := by
  have hfive : 5 ^ n < 2 * leastFull :=
    (Nat.pow_le_pow_right (by decide) hn).trans_lt (by decide)
  obtain ⟨t, ht, -, hpos, hmagnitude⟩ :=
    exists_nearest? false (Nat.pow_pos (by decide)) hfive (hn.trans (by decide))
  have hten : Nat.pow 10 n = 5 ^ n * 2 ^ n := (Nat.mul_pow 5 2 n)
  refine ⟨t, ?_, hpos, ?_⟩
  · unfold ten?
    rw [hten]
    exact ht
  · rw [hmagnitude]
    push_cast
    rw [← mul_pow]
    norm_num

/-! ### Products and quotients -/

theorem times?_eq_some {f t : Double} (hpos : 0 < d.significand) (hnegative : f.negative = d.negative)
    (h : d.interval.Contains (f.magnitude * t.magnitude)) : f.times? t = some d := by
  unfold times?
  rw [hnegative]
  refine nearest?_eq_some hpos (Nat.mul_ne_zero f.den_ne_zero t.den_ne_zero) ?_
  push_cast
  rw [mul_div_mul_comm, num_div_den, num_div_den]
  exact h

theorem over?_eq_some {f t : Double} (hpos : 0 < d.significand) (hnegative : f.negative = d.negative)
    (ht : 0 < t.significand) (h : d.interval.Contains (f.magnitude / t.magnitude)) :
    f.over? t = some d := by
  unfold over?
  rw [hnegative]
  refine nearest?_eq_some hpos (Nat.mul_ne_zero f.den_ne_zero (t.num_ne_zero ht)) ?_
  push_cast
  rw [mul_div_mul_comm, ← inv_div (t.num : ℚ), ← div_eq_mul_inv, num_div_den, num_div_den]
  exact h

/-- A significand of at most 53 bits and a small power of ten are exact, so only what is made of them
is rounded. -/
theorem ofParts?_eq_some (hpos : 0 < d.significand) {m : Nat} (hm : m < 2 * leastFull) {e : ℤ}
    (he : e.natAbs ≤ 22) (h : d.interval.Contains (m * 10 ^ e)) :
    ofParts? d.negative m e = some d := by
  have hmpos : 0 < m := by
    refine Nat.pos_of_ne_zero (fun hzero => ?_)
    have := Interval.Contains.pos hpos h
    simp [hzero] at this
  obtain ⟨f, hf, hnegative, -, hmagnitude⟩ := @exists_nearest? d.negative m 0 hmpos hm (by decide)
  obtain ⟨t, ht, htpos, hten⟩ := exists_ten? he
  rw [pow_zero, mul_one] at hf
  rw [pow_zero, mul_one] at hmagnitude
  unfold ofParts?
  simp only [hf, Option.bind_eq_bind, Option.bind_some]
  by_cases hneg : e < 0
  · have hplaces : (-e).toNat - 1 = e.natAbs - 1 := by omega
    have hdiv : (e.natAbs - 1) / greatestTen = 0 := Nat.div_eq_of_lt (by unfold greatestTen; omega)
    have hmod : (e.natAbs - 1) % greatestTen + 1 = e.natAbs := by
      rw [Nat.mod_eq_of_lt (by unfold greatestTen; omega)]
      omega
    rw [if_pos hneg, hplaces, hdiv, hmod, ht]
    refine over?_eq_some hpos hnegative htpos ?_
    have hquotient : (m : ℚ) / 10 ^ e.natAbs = m * 10 ^ e := by
      rw [div_eq_mul_inv, ← zpow_natCast, ← zpow_neg]
      congr 2
      omega
    rw [hmagnitude, hten, hquotient]
    exact h
  · have htoNat : e.toNat = e.natAbs := by omega
    have hle : e ≤ greatestTen := by unfold greatestTen; omega
    rw [if_neg hneg, if_pos hle, htoNat, ht]
    refine times?_eq_some hpos hnegative ?_
    have hproduct : (m : ℚ) * 10 ^ e.natAbs = m * 10 ^ e := by
      rw [← zpow_natCast]
      congr 2
      omega
    rw [hmagnitude, hten, hproduct]
    exact h

/-- Of few digits and a small power of ten a decimal that rounds to a number reads as the number. -/
theorem ofDigits?_eq_some (hpos : 0 < d.significand) {whole fraction : List Char} {e : ℤ}
    (hm : Nat.ofDigitChars 10 (whole ++ fraction) 0 < 2 * leastFull)
    (he : (e - fraction.length).natAbs ≤ 22)
    (h : d.interval.Contains
      (Nat.ofDigitChars 10 (whole ++ fraction) 0 * 10 ^ (e - fraction.length))) :
    ofDigits? d.negative whole fraction e = some d := by
  have hword : 2 * leastFull < wordLimit := by decide
  rw [Nat.ofDigitChars_append] at hm h
  have hwhole : takeDigits 0 whole = (Nat.ofDigitChars 10 whole 0, []) :=
    takeDigits_eq ((le_ofDigitChars fraction _).trans_lt (hm.trans hword))
  have hfraction := takeDigits_eq (hm.trans hword)
  unfold ofDigits?
  rw [hwhole]
  dsimp only
  rw [hfraction]
  dsimp only [List.length_nil]
  have hpower : e + (0 : Nat) - (fraction.length - 0 : Nat) = e - fraction.length := by simp
  rw [hpower]
  exact ofParts?_eq_some hpos hm he h

end Double
end Fleet.Decimal
