import Fleet.Decimal.Shortest
import Mathlib.Algebra.Order.Archimedean.Basic
import Mathlib.Algebra.Order.Field.Power
import Mathlib.Data.Rat.Cast.Order
import Mathlib.Tactic.FieldSimp
import Mathlib.Tactic.Linarith
import Mathlib.Tactic.NormNum
import Mathlib.Tactic.Positivity
import Mathlib.Tactic.Ring

/-! # What rounds to a binary64 number

`Double.interval` is the interval of the decimals that round to a number.  The main statement is
`nearest?_eq_some`: every quotient in that interval does round to the number, the ends included
where the significand is even.

Quotients are compared as rational numbers, where the powers of two that clear their fractions
cancel. -/

namespace Fleet.Decimal

/-! ### Powers with an integer exponent -/

theorem zpow_eq_div {b : ℚ} (hb : b ≠ 0) (n : ℤ) : b ^ n = b ^ n.toNat / b ^ (-n).toNat := by
  rw [eq_div_iff (pow_ne_zero _ hb), ← zpow_natCast, ← zpow_natCast, ← zpow_add₀ hb]
  congr 1
  omega

theorem natCast_pow (b n : Nat) : ((Nat.pow b n : Nat) : ℚ) = (b : ℚ) ^ n := by
  rw [Nat.pow_eq, Nat.cast_pow]

/-- Only one power of two is the greatest below a number. -/
theorem eq_of_zpow_bounds {x : ℚ} {a b : ℤ} (ha : (2 : ℚ) ^ a ≤ x) (ha' : x < 2 ^ (a + 1))
    (hb : (2 : ℚ) ^ b ≤ x) (hb' : x < 2 ^ (b + 1)) : a = b := by
  have hab : a < b + 1 := (zpow_lt_zpow_iff_right₀ one_lt_two).1 (ha.trans_lt hb')
  have hba : b < a + 1 := (zpow_lt_zpow_iff_right₀ one_lt_two).1 (hb.trans_lt ha')
  omega

/-! ### Rounding a quotient -/

theorem divRound_eq {num den m : Nat} (hden : 0 < den) (hlow : 2 * (m * den) ≤ 2 * num + den)
    (hhigh : 2 * num ≤ 2 * (m * den) + den)
    (heven : 2 * (m * den) = 2 * num + den ∨ 2 * num = 2 * (m * den) + den → m % 2 = 0) :
    divRound num den = m := by
  obtain ⟨q, hq⟩ : ∃ q, q = num / den := ⟨_, rfl⟩
  obtain ⟨r, hr⟩ : ∃ r, r = num % den := ⟨_, rfl⟩
  have hnum : q * den + r = num := by
    rw [hq, hr, Nat.mul_comm]
    exact Nat.div_add_mod num den
  have hlt : r < den := by
    rw [hr]
    exact Nat.mod_lt _ hden
  have hm : m = q ∨ m = q + 1 := by
    have hle : m < q + 2 := by
      by_contra hcon
      have := Nat.mul_le_mul_right den (Nat.le_of_not_lt hcon)
      rw [Nat.add_mul] at this
      omega
    have hge : q < m + 1 := by
      by_contra hcon
      have := Nat.mul_le_mul_right den (Nat.le_of_not_lt hcon)
      rw [Nat.add_mul] at this
      omega
    omega
  unfold divRound
  rw [← hq, ← hr]
  rcases hm with rfl | rfl
  · have hsmall : 2 * r < den ∨ 2 * r = den ∧ m % 2 = 0 := by
      rcases Nat.lt_or_ge (2 * r) den with h | h
      · exact Or.inl h
      · have : 2 * r = den := by omega
        exact Or.inr ⟨this, heven (Or.inr (by omega))⟩
    exact if_pos hsmall
  · rw [Nat.add_mul] at hlow heven
    have hlarge : ¬ (2 * r < den ∨ 2 * r = den ∧ q % 2 = 0) := by
      rintro (h | ⟨h, heq⟩)
      · omega
      · have := heven (Or.inl (by omega))
        omega
    exact if_neg hlarge

/-- `divRound` rounds to `m` whatever lies less than a half from it, and a half if `m` is even. -/
theorem divRound_eq_of_div {num den m : Nat} {x : ℚ} (hden : 0 < den) (hx : x = num / den)
    (hlow : (m : ℚ) - 1 / 2 ≤ x) (hhigh : x ≤ m + 1 / 2)
    (heven : x = m - 1 / 2 ∨ x = m + 1 / 2 → m % 2 = 0) : divRound num den = m := by
  have hpos : (0 : ℚ) < den := by exact_mod_cast hden
  have hnum : (num : ℚ) = x * den := by rw [hx, div_mul_cancel₀ _ hpos.ne']
  have hscaled := mul_le_mul_of_nonneg_right hlow hpos.le
  have hscaled' := mul_le_mul_of_nonneg_right hhigh hpos.le
  refine divRound_eq hden ?_ ?_ (fun h => heven ?_)
  · have : 2 * ((m : ℚ) * den) ≤ 2 * num + den := by linarith
    exact_mod_cast this
  · have : 2 * (num : ℚ) ≤ 2 * (m * den) + den := by linarith
    exact_mod_cast this
  · rcases h with h | h
    · have h : 2 * ((m : ℚ) * den) = 2 * num + den := by exact_mod_cast h
      exact Or.inl (mul_right_cancel₀ hpos.ne' (by linarith))
    · have h : 2 * (num : ℚ) = 2 * (m * den) + den := by exact_mod_cast h
      exact Or.inr (mul_right_cancel₀ hpos.ne' (by linarith))

/-! ### The place of the last bit -/

theorem log2_bounds {n : Nat} (hn : n ≠ 0) :
    (2 : ℚ) ^ (n.log2 : ℤ) ≤ n ∧ (n : ℚ) < 2 ^ ((n.log2 : ℤ) + 1) := by
  constructor
  · rw [zpow_natCast]
    exact_mod_cast Nat.log2_self_le hn
  · have : ((n.log2 : ℤ) + 1) = ((n.log2 + 1 : Nat) : ℤ) := by push_cast; rfl
    rw [this, zpow_natCast]
    exact_mod_cast Nat.lt_log2_self

/-- Of a quotient between two powers of two, the place of the last of 53 bits. -/
theorem unitExponent_eq {num den : Nat} {e : ℤ} (hnum : num ≠ 0) (hden : den ≠ 0)
    (hlow : (2 : ℚ) ^ e ≤ num / den) (hhigh : (num : ℚ) / den < 2 ^ (e + 1)) :
    unitExponent num den = max (e - 52) (-1074) := by
  have hpos : (0 : ℚ) < den := by exact_mod_cast Nat.pos_of_ne_zero hden
  obtain ⟨hn, hn'⟩ := log2_bounds hnum
  obtain ⟨hd, hd'⟩ := log2_bounds hden
  obtain ⟨l, hl⟩ : ∃ l : ℤ, l = (num.log2 : ℤ) - den.log2 := ⟨_, rfl⟩
  have hreaches : den * Nat.pow 2 l.toNat ≤ num * Nat.pow 2 (-l).toNat ↔
      (2 : ℚ) ^ l ≤ num / den := by
    rw [zpow_eq_div two_ne_zero, div_le_div_iff₀ (by positivity) hpos, ← Nat.cast_le (α := ℚ)]
    push_cast [natCast_pow]
    rw [mul_comm (den : ℚ)]
  have hbelow : (2 : ℚ) ^ (l - 1) ≤ num / den := by
    rw [le_div_iff₀ hpos]
    calc (2 : ℚ) ^ (l - 1) * den ≤ 2 ^ (l - 1) * 2 ^ ((den.log2 : ℤ) + 1) := by gcongr
      _ = 2 ^ (num.log2 : ℤ) := by
        rw [← zpow_add₀ two_ne_zero, hl]
        congr 1
        omega
      _ ≤ num := hn
  have habove : (num : ℚ) / den < 2 ^ (l + 1) := by
    rw [div_lt_iff₀ hpos]
    calc (num : ℚ) < 2 ^ ((num.log2 : ℤ) + 1) := hn'
      _ = 2 ^ (l + 1) * 2 ^ (den.log2 : ℤ) := by
        rw [← zpow_add₀ two_ne_zero, hl]
        congr 1
        omega
      _ ≤ 2 ^ (l + 1) * den := by gcongr
  unfold unitExponent
  dsimp only
  rw [← hl]
  by_cases h : den * Nat.pow 2 l.toNat ≤ num * Nat.pow 2 (-l).toNat
  · rw [if_pos h, eq_of_zpow_bounds (hreaches.1 h) habove hlow hhigh]
  · have hlt : (num : ℚ) / den < 2 ^ (l - 1 + 1) := by
      rw [sub_add_cancel]
      exact lt_of_not_ge (fun hge => h (hreaches.2 hge))
    rw [if_neg h, ← eq_of_zpow_bounds hbelow hlt hlow hhigh]
    congr 1
    omega

/-! ### The interval of a number -/

/-- Whether a rational number lies in the interval. -/
def Interval.Contains (i : Interval) (x : ℚ) : Prop :=
  (i.low : ℚ) * 2 ^ i.unit ≤ x ∧ x ≤ i.high * 2 ^ i.unit ∧
    (i.closed = false → x ≠ i.low * 2 ^ i.unit ∧ x ≠ i.high * 2 ^ i.unit)

/-- The magnitude of a binary64 number. -/
def Double.magnitude (d : Double) : ℚ := d.significand * 2 ^ d.exponent

/-- The lower half of the interval is only half as long where the exponent changes. -/
def Double.AtBoundary (d : Double) : Prop := d.significand = leastFull ∧ -1074 < d.exponent

instance (d : Double) : Decidable d.AtBoundary := inferInstanceAs (Decidable (_ ∧ _))

/-- A quarter of the last place. -/
theorem zpow_exponent (q : ℤ) : (2 : ℚ) ^ q = 4 * 2 ^ (q - 2) := by
  have h : q = q - 2 + 2 := by omega
  conv_lhs => rw [h, zpow_add₀ two_ne_zero]
  norm_num
  ring

/-- A point of the interval, measured in the last place of the number. -/
structure Near (d : Double) (y : ℚ) : Prop where
  low : (d.significand : ℚ) - (if d.AtBoundary then 1 / 4 else 1 / 2) ≤ y
  high : y ≤ d.significand + 1 / 2
  /-- The ends count only if the significand is even. -/
  ends : y = d.significand - 1 / 2 ∨ y = d.significand + 1 / 2 → d.significand % 2 = 0

theorem Double.low_interval (d : Double) (h : 0 < d.significand) :
    (d.interval.low : ℚ) = 4 * d.significand - (if d.AtBoundary then 1 else 2) := by
  by_cases hb : d.AtBoundary
  · have hlow : d.interval.low = 4 * d.significand - 1 := if_pos hb
    rw [hlow, if_pos hb, Nat.cast_sub (by omega)]
    push_cast
    ring
  · have hlow : d.interval.low = 4 * d.significand - 2 := if_neg hb
    rw [hlow, if_neg hb, Nat.cast_sub (by omega)]
    push_cast
    ring

theorem Interval.Contains.near {d : Double} (hpos : 0 < d.significand) {x : ℚ}
    (h : d.interval.Contains x) : Near d (x / 2 ^ d.exponent) := by
  obtain ⟨hlow, hhigh, hends⟩ := h
  have hunit : (0 : ℚ) < 2 ^ (d.exponent - 2) := by positivity
  have hexp := zpow_exponent d.exponent
  have hclosed : d.interval.closed = (d.significand % 2 == 0) := rfl
  have hhi : (d.interval.high : ℚ) = 4 * d.significand + 2 := by
    show ((4 * d.significand + 2 : Nat) : ℚ) = _
    push_cast
    ring
  have hun : d.interval.unit = d.exponent - 2 := rfl
  rw [d.low_interval hpos, hun] at hlow hends
  rw [hhi] at hhigh hends
  rw [hun] at hhigh
  constructor
  · rw [hexp, le_div_iff₀ (by positivity)]
    refine le_trans (le_of_eq ?_) hlow
    split <;> ring
  · rw [hexp, div_le_iff₀ (by positivity)]
    refine hhigh.trans (le_of_eq ?_)
    ring
  · intro hy
    by_contra hodd
    have hopen : d.interval.closed = false := by
      rw [hclosed]
      exact beq_false_of_ne hodd
    obtain ⟨hneLow, hneHigh⟩ := hends hopen
    rw [hexp] at hy
    rcases hy with hy | hy
    · have hx : x = (4 * d.significand - 2) * 2 ^ (d.exponent - 2) := by
        rw [div_eq_iff (by positivity)] at hy
        rw [hy]
        ring
      by_cases hb : d.AtBoundary
      · exact absurd hb.1 (by
          intro he
          rw [he] at hodd
          exact hodd (by decide))
      · rw [if_neg hb] at hneLow
        exact hneLow hx
    · rw [div_eq_iff (by positivity)] at hy
      exact hneHigh (by rw [hy]; ring)

/-! ### Rounding to a number -/

theorem leastFull_eq : (leastFull : ℚ) = 2 ^ (52 : ℤ) := by
  norm_num [leastFull]

/-- A quotient in the measure of a power of two. -/
theorem scaled_div (num den : Nat) (q : ℤ) :
    ((num * Nat.pow 2 (-q).toNat : Nat) : ℚ) / (den * Nat.pow 2 q.toNat : Nat) =
      num / den / 2 ^ q := by
  rw [zpow_eq_div two_ne_zero q]
  push_cast [natCast_pow]
  rw [div_div_eq_mul_div, ← div_div, mul_div_right_comm]

theorem Near.pos {d : Double} (hpos : 0 < d.significand) {y : ℚ} (h : Near d y) : 0 < y := by
  have hlow := h.low
  have hone : (1 : ℚ) ≤ d.significand := by exact_mod_cast hpos
  split at hlow <;> linarith

theorem Near.num_ne_zero {d : Double} (hpos : 0 < d.significand) {num den : Nat}
    (h : Near d (num / den / 2 ^ d.exponent)) : num ≠ 0 := by
  rintro rfl
  have := h.pos hpos
  simp at this

theorem Near.lt {d : Double} {y : ℚ} (h : Near d y) : y < 2 * 2 ^ (52 : ℤ) := by
  have hhigh := h.high
  have hm : (d.significand : ℚ) + 1 ≤ 2 * leastFull := by exact_mod_cast d.canonical.1
  rw [leastFull_eq] at hm
  linarith

/-- A number whose last place is its own keeps this place when it is rounded. -/
theorem unitExponent_near {d : Double} (hpos : 0 < d.significand) {num den : Nat} (hden : den ≠ 0)
    (h : Near d (num / den / 2 ^ d.exponent))
    (hfull : (leastFull : ℚ) ≤ num / den / 2 ^ d.exponent ∨ d.exponent = -1074) :
    unitExponent num den = d.exponent := by
  obtain ⟨x, hx⟩ : ∃ x : ℚ, x = num / den := ⟨_, rfl⟩
  rw [← hx] at h hfull
  have hunit : (0 : ℚ) < 2 ^ d.exponent := by positivity
  have hxpos : 0 < x := by
    have := mul_pos (h.pos hpos) hunit
    rwa [div_mul_cancel₀ _ hunit.ne'] at this
  have hxlt : x < 2 ^ (d.exponent + 52 + 1) := by
    have := (div_lt_iff₀ hunit).1 h.lt
    refine this.trans_eq ?_
    rw [zpow_add₀ two_ne_zero, zpow_add₀ two_ne_zero]
    ring
  have hnum : num ≠ 0 := by
    rintro rfl
    simp [hx] at hxpos
  obtain ⟨e, hlow, hhigh⟩ := exists_mem_Ico_zpow hxpos one_lt_two
  have hle : e < d.exponent + 52 + 1 := (zpow_lt_zpow_iff_right₀ one_lt_two).1 (hlow.trans_lt hxlt)
  rw [hx] at hlow hhigh
  rw [unitExponent_eq hnum hden hlow hhigh]
  rcases hfull with hfull | hleast
  · rw [leastFull_eq, le_div_iff₀ hunit, ← zpow_add₀ two_ne_zero, hx] at hfull
    have hge : 52 + d.exponent < e + 1 :=
      (zpow_lt_zpow_iff_right₀ one_lt_two).1 (hfull.trans_lt hhigh)
    have hcanonical := d.canonical.2.1
    omega
  · omega

theorem nearest?_of_near {d : Double} (hpos : 0 < d.significand) {num den : Nat} (hden : den ≠ 0)
    (h : Near d (num / den / 2 ^ d.exponent))
    (hfull : (leastFull : ℚ) ≤ num / den / 2 ^ d.exponent ∨ d.exponent = -1074) :
    Double.nearest? d.negative num den = some d := by
  have hround : divRound (num * Nat.pow 2 (-d.exponent).toNat) (den * Nat.pow 2 d.exponent.toNat) =
      d.significand := by
    have hhalf := h.low
    have : (d.significand : ℚ) - 1 / 2 ≤ num / den / 2 ^ d.exponent := by
      split at hhalf <;> linarith
    refine divRound_eq_of_div ?_ (scaled_div num den d.exponent).symm this h.high h.ends
    exact Nat.mul_pos (Nat.pos_of_ne_zero hden) (Nat.pow_pos (by decide))
  have hne : d.significand ≠ 2 * leastFull := Nat.ne_of_lt d.canonical.1
  unfold Double.nearest?
  rw [if_neg (h.num_ne_zero hpos), unitExponent_near hpos hden h hfull]
  dsimp only
  rw [hround, if_neg hne]
  exact dif_pos d.canonical

/-- Just below a power of two the last place is finer, and rounding carries into it. -/
theorem nearest?_of_below {d : Double} (hb : d.AtBoundary) {num den : Nat} (hden : den ≠ 0)
    (h : Near d (num / den / 2 ^ d.exponent))
    (hbelow : (num : ℚ) / den / 2 ^ d.exponent < leastFull) :
    Double.nearest? d.negative num den = some d := by
  obtain ⟨x, hx⟩ : ∃ x : ℚ, x = num / den := ⟨_, rfl⟩
  obtain ⟨hm, hq⟩ := hb
  have hlow := h.low
  rw [if_pos ⟨hm, hq⟩, hm, ← hx] at hlow
  rw [← hx] at hbelow
  have hunit : (0 : ℚ) < 2 ^ d.exponent := by positivity
  have hhalf : x / 2 ^ (d.exponent - 1) = 2 * (x / 2 ^ d.exponent) := by
    have : (2 : ℚ) ^ d.exponent = 2 * 2 ^ (d.exponent - 1) := by
      rw [← zpow_one_add₀ two_ne_zero]
      congr 1
      omega
    rw [this]
    field_simp
  have hnum : num ≠ 0 := by
    rintro rfl
    rw [hx] at hlow
    norm_num [leastFull] at hlow
  have hunitExponent : unitExponent num den = d.exponent - 1 := by
    have hge : (2 : ℚ) ^ (d.exponent + 51) ≤ num / den := by
      rw [← hx, zpow_add₀ two_ne_zero, mul_comm, ← le_div_iff₀ hunit]
      refine le_trans ?_ hlow
      norm_num [leastFull]
    have hlt : (num : ℚ) / den < 2 ^ (d.exponent + 51 + 1) := by
      rw [← hx, add_assoc, zpow_add₀ two_ne_zero, mul_comm, ← div_lt_iff₀ hunit]
      refine hbelow.trans_eq ?_
      norm_num [leastFull]
    rw [unitExponent_eq hnum hden hge hlt]
    omega
  have hround : divRound (num * Nat.pow 2 (-(d.exponent - 1)).toNat)
      (den * Nat.pow 2 (d.exponent - 1).toNat) = 2 * leastFull := by
    refine divRound_eq_of_div ?_ (scaled_div num den (d.exponent - 1)).symm ?_ ?_ ?_
    · exact Nat.mul_pos (Nat.pos_of_ne_zero hden) (Nat.pow_pos (by decide))
    · rw [← hx, hhalf]
      push_cast
      linarith
    · rw [← hx, hhalf]
      push_cast
      linarith
    · intro _
      decide
  unfold Double.nearest?
  rw [if_neg hnum, hunitExponent]
  dsimp only
  rw [hround, if_pos rfl, sub_add_cancel]
  obtain ⟨negative, significand, exponent, hcanonical⟩ := d
  obtain rfl : significand = leastFull := hm
  exact dif_pos hcanonical

/-- Every quotient in the interval of a number rounds to the number. -/
theorem nearest?_eq_some {d : Double} (hpos : 0 < d.significand) {num den : Nat} (hden : den ≠ 0)
    (h : d.interval.Contains (num / den)) : Double.nearest? d.negative num den = some d := by
  have hnear := h.near hpos
  have hlow := hnear.low
  rcases le_or_gt (leastFull : ℚ) (num / den / 2 ^ d.exponent) with hfull | hbelow
  · exact nearest?_of_near hpos hden hnear (Or.inl hfull)
  · by_cases hb : d.AtBoundary
    · exact nearest?_of_below hb hden hnear hbelow
    · rw [if_neg hb] at hlow
      have hle : d.significand ≤ leastFull := by
        have : (d.significand : ℚ) < leastFull + 1 := by linarith
        exact Nat.le_of_lt_succ (by exact_mod_cast this)
      have hleast : d.exponent = -1074 := by
        rcases d.canonical.2.2.2 with hfull | hleast
        · have hm := Nat.le_antisymm hle hfull
          have := d.canonical.2.1
          by_contra hne
          exact hb ⟨hm, by omega⟩
        · exact hleast
      exact nearest?_of_near hpos hden hnear (Or.inr hleast)

end Fleet.Decimal
