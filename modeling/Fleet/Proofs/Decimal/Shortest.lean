import Fleet.Proofs.Decimal.Rounding

/-! # The shortest decimal rounds to its number

`Double.shortest` looks for a decimal with 1, 2, …, 17 digits in the interval of a number.  With 17
digits the grid is finer than the interval, hence one of the two neighbours of the number lies in
it (`Interval.search_isSome`).  So the shortest decimal of a number lies in its interval
(`Double.contains_shortest`), and rounds to the number (`nearest?_eq_some`). -/

namespace Fleet.Decimal

/-! ### The common measure -/

/-- What `gridPoint` and `binaryPoint` multiply by. -/
def measure (unit k : ℤ) : ℚ := 2 ^ (-unit).toNat * 10 ^ (-k).toNat

theorem measure_pos (unit k : ℤ) : 0 < measure unit k := by
  unfold measure
  positivity

theorem gridPoint_eq (unit k : ℤ) (c : Nat) :
    (gridPoint unit k c : ℚ) = c * 10 ^ k * measure unit k := by
  unfold gridPoint measure
  rw [zpow_eq_div (by norm_num : (10 : ℚ) ≠ 0) k]
  push_cast [natCast_pow]
  field_simp

theorem binaryPoint_eq (unit k : ℤ) (x : Nat) :
    (binaryPoint unit k x : ℚ) = x * 2 ^ unit * measure unit k := by
  unfold binaryPoint measure
  rw [zpow_eq_div (by norm_num : (2 : ℚ) ≠ 0) unit]
  push_cast [natCast_pow]
  field_simp

theorem gridPoint_le_binaryPoint {unit k : ℤ} {c x : Nat} :
    gridPoint unit k c ≤ binaryPoint unit k x ↔ (c : ℚ) * 10 ^ k ≤ x * 2 ^ unit := by
  rw [← Nat.cast_le (α := ℚ), gridPoint_eq, binaryPoint_eq,
    mul_le_mul_iff_of_pos_right (measure_pos unit k)]

theorem binaryPoint_le_gridPoint {unit k : ℤ} {c x : Nat} :
    binaryPoint unit k x ≤ gridPoint unit k c ↔ (x : ℚ) * 2 ^ unit ≤ c * 10 ^ k := by
  rw [← Nat.cast_le (α := ℚ), gridPoint_eq, binaryPoint_eq,
    mul_le_mul_iff_of_pos_right (measure_pos unit k)]

namespace Interval

theorem holds_iff {i : Interval} {k : ℤ} {c : Nat} :
    i.holds k c = true ↔ i.Contains (c * 10 ^ k) := by
  unfold holds Contains
  dsimp only
  cases hclosed : i.closed with
  | true =>
      rw [if_pos rfl, Bool.and_eq_true, decide_eq_true_iff, decide_eq_true_iff,
        binaryPoint_le_gridPoint, gridPoint_le_binaryPoint]
      simp
  | false =>
      rw [if_neg (by decide), Bool.and_eq_true, decide_eq_true_iff, decide_eq_true_iff,
        ← not_le, ← not_le, binaryPoint_le_gridPoint, gridPoint_le_binaryPoint, not_le, not_le]
      constructor
      · rintro ⟨hlow, hhigh⟩
        exact ⟨hlow.le, hhigh.le, fun _ => ⟨hlow.ne', hhigh.ne⟩⟩
      · rintro ⟨hlow, hhigh, hends⟩
        exact ⟨lt_of_le_of_ne hlow (hends rfl).1.symm, lt_of_le_of_ne hhigh (hends rfl).2⟩

/-- A neighbour that is picked rounds to the number. -/
theorem contains_of_hit? {i : Interval} {k : ℤ} {c : Nat} (h : i.hit? k = some c) :
    i.Contains (c * 10 ^ k) := by
  unfold hit? at h
  dsimp only at h
  split at h
  · cases h
  · next hbelow _ =>
      cases h
      exact holds_iff.1 hbelow
  · next _ habove =>
      cases h
      exact holds_iff.1 habove
  · next hbelow habove =>
      cases h
      split
      · exact holds_iff.1 hbelow
      · exact holds_iff.1 habove

theorem contains_of_lt {i : Interval} {x : ℚ} (hlow : (i.low : ℚ) * 2 ^ i.unit < x)
    (hhigh : x < i.high * 2 ^ i.unit) : i.Contains x :=
  ⟨hlow.le, hhigh.le, fun _ => ⟨hlow.ne', hhigh.ne⟩⟩

theorem hit?_isSome_of_contains {i : Interval} {k : ℤ} {c : Nat}
    (hc : c = binaryPoint i.unit k i.value / gridPoint i.unit k 1)
    (h : i.Contains (c * 10 ^ k) ∨ i.Contains ((c + 1 : Nat) * 10 ^ k)) : (i.hit? k).isSome := by
  rw [← holds_iff, ← holds_iff] at h
  unfold hit?
  dsimp only
  rw [← hc]
  cases hbelow : i.holds k c <;> cases habove : i.holds k (c + 1)
  · simp [hbelow, habove] at h
  · rfl
  · rfl
  · rfl

/-- A grid finer than the interval has a point in it next to the number. -/
theorem hit?_isSome {i : Interval} {k : ℤ} (hlow : i.low < i.value) (hhigh : i.value < i.high)
    (hfine : (10 : ℚ) ^ k < (i.high - i.low) * 2 ^ i.unit) : (i.hit? k).isSome := by
  obtain ⟨below, hbelow⟩ : ∃ below, below = binaryPoint i.unit k i.value / gridPoint i.unit k 1 :=
    ⟨_, rfl⟩
  have hgrid : ∀ c, gridPoint i.unit k c = c * gridPoint i.unit k 1 := by
    intro c
    unfold gridPoint
    rw [Nat.one_mul, Nat.mul_assoc]
  have hpos : 0 < gridPoint i.unit k 1 := by
    unfold gridPoint
    exact Nat.mul_pos (Nat.mul_pos Nat.one_pos (Nat.pow_pos (by decide)))
      (Nat.pow_pos (by decide))
  have hunit : (0 : ℚ) < 2 ^ i.unit := by positivity
  have hle : (below : ℚ) * 10 ^ k ≤ i.value * 2 ^ i.unit := by
    rw [← gridPoint_le_binaryPoint, hgrid, hbelow]
    exact Nat.div_mul_le_self _ _
  have hgt : (i.value : ℚ) * 2 ^ i.unit < (below + 1 : Nat) * 10 ^ k := by
    rw [← not_le, ← gridPoint_le_binaryPoint, hgrid, not_le, hbelow]
    rw [Nat.mul_comm]
    exact Nat.lt_mul_div_succ _ hpos
  have hvalue : (i.low : ℚ) * 2 ^ i.unit < i.value * 2 ^ i.unit :=
    mul_lt_mul_of_pos_right (by exact_mod_cast hlow) hunit
  have hvalue' : (i.value : ℚ) * 2 ^ i.unit < i.high * 2 ^ i.unit :=
    mul_lt_mul_of_pos_right (by exact_mod_cast hhigh) hunit
  refine hit?_isSome_of_contains hbelow ?_
  rcases lt_or_ge ((i.low : ℚ) * 2 ^ i.unit) (below * 10 ^ k) with hin | hout
  · exact Or.inl (contains_of_lt hin (hle.trans_lt hvalue'))
  · -- the grid reaches over the whole interval only if it is as coarse
    refine Or.inr (contains_of_lt (hvalue.trans hgt) ?_)
    push_cast
    linarith

/-! ### The search -/

theorem pow_length_le {n : Nat} (hn : n ≠ 0) : 10 ^ ((Nat.toDigits 10 n).length - 1) ≤ n := by
  have hlength : 0 < (Nat.toDigits 10 n).length := Nat.length_toDigits_pos
  rcases Nat.eq_zero_or_pos ((Nat.toDigits 10 n).length - 1) with h | h
  · rw [h]
    exact Nat.one_le_iff_ne_zero.2 hn
  · by_contra hlt
    have := (Nat.length_toDigits_le_iff (by decide) h).2 (Nat.lt_of_not_le hlt)
    omega

theorem zpow_magnitude_le {i : Interval} (h : (10 : ℚ) ^ (-400 : ℤ) ≤ i.value * 2 ^ i.unit) :
    (10 : ℚ) ^ i.magnitude ≤ i.value * 2 ^ i.unit := by
  obtain ⟨n, hn⟩ : ∃ n, n = binaryPoint i.unit (-400) i.value / gridPoint i.unit (-400) 1 :=
    ⟨_, rfl⟩
  have hle : gridPoint i.unit (-400) 1 ≤ binaryPoint i.unit (-400) i.value := by
    rw [gridPoint_le_binaryPoint, Nat.cast_one, one_mul]
    exact h
  have hpos : 0 < gridPoint i.unit (-400) 1 := by
    rw [← Nat.cast_pos (α := ℚ), gridPoint_eq]
    exact mul_pos (by positivity) (measure_pos _ _)
  have hne : n ≠ 0 := by
    rw [hn]
    exact (Nat.div_pos hle hpos).ne'
  have hgrid : (n : ℚ) * 10 ^ (-400 : ℤ) ≤ i.value * 2 ^ i.unit := by
    rw [← gridPoint_le_binaryPoint]
    have hmul : gridPoint i.unit (-400) n = n * gridPoint i.unit (-400) 1 := by
      unfold gridPoint
      rw [Nat.one_mul, Nat.mul_assoc]
    rw [hmul, hn]
    exact Nat.div_mul_le_self _ _
  have hlength : 0 < (Nat.toDigits 10 n).length := Nat.length_toDigits_pos
  have hmagnitude : i.magnitude = (((Nat.toDigits 10 n).length - 1 : Nat) : ℤ) + -400 := by
    unfold magnitude
    rw [← hn]
    dsimp only
    omega
  rw [hmagnitude, zpow_add₀ (by norm_num), zpow_natCast]
  refine le_trans (mul_le_mul_of_nonneg_right ?_ (by positivity)) hgrid
  exact_mod_cast pow_length_le hne

theorem contains_of_search {i : Interval} {magnitude k : ℤ} {left digits c : Nat}
    (h : i.search magnitude left digits = some (c, k)) : i.Contains (c * 10 ^ k) := by
  induction left generalizing digits with
  | zero => cases h
  | succ left ih =>
      unfold search at h
      dsimp only at h
      split at h
      · next c' hhit =>
          cases h
          exact contains_of_hit? hhit
      · exact ih h

/-- The search ends at the last grid if it finds nothing before. -/
theorem search_isSome {i : Interval} {magnitude : ℤ} {left digits : Nat}
    (h : (i.hit? (magnitude - (digits + left : Nat) + 1)).isSome) :
    (i.search magnitude (left + 1) digits).isSome := by
  induction left generalizing digits with
  | zero =>
      unfold search
      dsimp only
      cases hhit : i.hit? (magnitude - digits + 1) with
      | some c => rfl
      | none =>
          rw [Nat.add_zero, hhit] at h
          cases h
  | succ left ih =>
      unfold search
      dsimp only
      cases i.hit? (magnitude - digits + 1) with
      | some c => rfl
      | none =>
          refine ih ?_
          rwa [Nat.add_right_comm, Nat.add_assoc]

end Interval

/-! ### Digits -/

theorem stripZeros_append (digits : List Char) :
    ∃ z, stripZeros digits ++ List.replicate z '0' = digits := by
  refine ⟨(digits.reverse.takeWhile (· == '0')).length, ?_⟩
  have hzeros : digits.reverse.takeWhile (· == '0') =
      List.replicate (digits.reverse.takeWhile (· == '0')).length '0' := by
    refine List.eq_replicate_iff.2 ⟨rfl, fun c hc => ?_⟩
    exact eq_of_beq (List.all_eq_true.1 List.all_takeWhile c hc)
  unfold stripZeros
  rw [← List.reverse_replicate, ← hzeros, ← List.reverse_append, List.takeWhile_append_dropWhile,
    List.reverse_reverse]

/-- A number is not written with a zero in front. -/
theorem head?_toDigits {n : Nat} (hn : n ≠ 0) : (Nat.toDigits 10 n).head? ≠ some '0' := by
  induction n using Nat.strongRecOn with
  | ind n ih =>
      rw [Nat.toDigits_eq_if (by decide)]
      split
      · next hlt =>
          intro h
          exact hn (Nat.digitChar_eq_zero.1 (Option.some.inj h))
      · next hge =>
          have hne : n / 10 ≠ 0 := by omega
          have := ih (n / 10) (by omega) hne
          cases hdigits : Nat.toDigits 10 (n / 10) with
          | nil => exact absurd hdigits Nat.toDigits_ne_nil
          | cons c cs =>
              rw [hdigits] at this
              exact this

/-- The digits of a decimal: some, not only zeros, and none of them a zero in front. -/
structure IsNumeral (digits : List Char) : Prop where
  digit : ∀ c ∈ digits, c.isDigit = true
  head : ∃ c cs, digits = c :: cs ∧ c ≠ '0'

theorem isNumeral_toDigits {n : Nat} (hn : n ≠ 0) : IsNumeral (Nat.toDigits 10 n) := by
  refine ⟨fun c hc => Nat.isDigit_of_mem_toDigits (by decide) (by decide) hc, ?_⟩
  have hhead := head?_toDigits hn
  cases hdigits : Nat.toDigits 10 n with
  | nil => exact absurd hdigits Nat.toDigits_ne_nil
  | cons c cs =>
      rw [hdigits] at hhead
      exact ⟨c, cs, rfl, fun h => hhead (congrArg some h)⟩

theorem IsNumeral.stripZeros {digits : List Char} (h : IsNumeral digits) :
    IsNumeral (stripZeros digits) := by
  obtain ⟨z, hz⟩ := stripZeros_append digits
  obtain ⟨c, cs, hdigits, hc⟩ := h.head
  refine ⟨fun x hx => h.digit x (hz ▸ List.mem_append_left _ hx), ?_⟩
  cases hstrip : Decimal.stripZeros digits with
  | nil =>
      rw [hstrip, List.nil_append, hdigits] at hz
      have hmem : c ∈ List.replicate z '0' := hz ▸ List.mem_cons_self
      exact absurd (List.eq_of_mem_replicate hmem) hc
  | cons x xs =>
      rw [hstrip, hdigits] at hz
      obtain ⟨rfl, -⟩ := List.cons.inj hz
      exact ⟨x, xs, rfl, hc⟩

/-- The number that a decimal stands for. -/
def Digits.value (s : Digits) : ℚ :=
  Nat.ofDigitChars 10 s.digits 0 * 10 ^ (s.exponent + 1 - s.digits.length)

/-- Zeros at the end only move the point. -/
theorem value_stripZeros (c : Nat) (k : ℤ) :
    (Digits.mk (stripZeros (Nat.toDigits 10 c)) (k + (Nat.toDigits 10 c).length - 1)).value =
      c * 10 ^ k := by
  obtain ⟨z, hz⟩ := stripZeros_append (Nat.toDigits 10 c)
  have hlength := congrArg List.length hz
  rw [List.length_append, List.length_replicate] at hlength
  have hvalue : c = 10 ^ z * Nat.ofDigitChars 10 (stripZeros (Nat.toDigits 10 c)) 0 := by
    conv_lhs => rw [← Nat.ofDigitChars_ten_toDigits (n := c), ← hz, Nat.ofDigitChars_append,
      Nat.ofDigitChars_replicate_zero]
  have hexp : k + ((Nat.toDigits 10 c).length : ℤ) - 1 + 1 -
      ((stripZeros (Nat.toDigits 10 c)).length : ℤ) = z + k := by omega
  unfold Digits.value
  dsimp only
  rw [hexp, zpow_add₀ (by norm_num), zpow_natCast]
  conv_rhs => rw [hvalue]
  push_cast
  ring

/-! ### The shortest decimal -/

namespace Double

variable {d : Double}

theorem value_interval (d : Double) :
    (d.interval.value : ℚ) * 2 ^ d.interval.unit = d.significand * 2 ^ d.exponent := by
  have hvalue : d.interval.value = 4 * d.significand := rfl
  have hunit : d.interval.unit = d.exponent - 2 := rfl
  rw [hvalue, hunit, zpow_exponent d.exponent]
  push_cast
  ring

theorem two_pow_le_ten_pow {a b : Nat} (h : a ≤ 3 * b) : (2 : ℚ) ^ a ≤ 10 ^ b := by
  calc (2 : ℚ) ^ a ≤ 2 ^ (3 * b) := pow_le_pow_right₀ one_le_two h
    _ = 8 ^ b := by rw [pow_mul]; norm_num
    _ ≤ 10 ^ b := pow_le_pow_left₀ (by norm_num) (by norm_num) b

/-- A positive binary64 number is far above the least power of ten looked at. -/
theorem zpow_le_value (hpos : 0 < d.significand) :
    (10 : ℚ) ^ (-400 : ℤ) ≤ d.significand * 2 ^ d.exponent := by
  have hone : (1 : ℚ) ≤ d.significand := by exact_mod_cast hpos
  have hpow : ((10 : ℚ) ^ 400)⁻¹ ≤ (2 ^ 1074)⁻¹ :=
    inv_anti₀ (by positivity) (two_pow_le_ten_pow (by decide))
  calc (10 : ℚ) ^ (-400 : ℤ) ≤ 1 * 2 ^ (-1074 : ℤ) := by
        rw [one_mul]
        exact hpow
    _ ≤ d.significand * 2 ^ d.exponent :=
      mul_le_mul hone (zpow_le_zpow_right₀ one_le_two d.canonical.2.1) (by positivity)
        (by positivity)

/-- With 17 digits the decimals lie closer than the binary64 numbers. -/
theorem hit?_last (hpos : 0 < d.significand) :
    (d.interval.hit? (d.interval.magnitude - (1 + 16 : Nat) + 1)).isSome := by
  have hvalue : d.interval.value = 4 * d.significand := rfl
  have hhigh : d.interval.high = 4 * d.significand + 2 := rfl
  have hlow := d.low_interval hpos
  have hmagnitude := Interval.zpow_magnitude_le (d.value_interval ▸ zpow_le_value hpos)
  have hlt : d.interval.low < d.interval.value := by
    rw [← Nat.cast_lt (α := ℚ), hlow, hvalue]
    push_cast
    split <;> linarith
  refine Interval.hit?_isSome hlt (by omega) ?_
  have hk : d.interval.magnitude - ((1 + 16 : Nat) : ℤ) + 1 = d.interval.magnitude + -16 := by
    push_cast
    ring
  rw [hk, zpow_add₀ (by norm_num)]
  refine (mul_le_mul_of_nonneg_right hmagnitude (by positivity)).trans_lt ?_
  rw [mul_right_comm]
  refine mul_lt_mul_of_pos_right ?_ (by positivity)
  have hm : (d.significand : ℚ) < 9007199254740992 := by
    exact_mod_cast (show d.significand < 9007199254740992 from d.canonical.1)
  rw [hvalue, hhigh, hlow]
  push_cast
  split
  · next hb =>
      rw [hb.1]
      norm_num [leastFull]
  · norm_num
    linarith

/-- What the shortest decimal is made of: it is in the interval of the number. -/
theorem exists_of_shortest (hpos : 0 < d.significand) : ∃ (c : Nat) (k : ℤ),
    d.interval.Contains (c * 10 ^ k) ∧
      d.shortest = ⟨stripZeros (Nat.toDigits 10 c), k + (Nat.toDigits 10 c).length - 1⟩ := by
  have hsome := Interval.search_isSome (hit?_last hpos)
  obtain ⟨⟨c, k⟩, hfound⟩ := Option.isSome_iff_exists.1 hsome
  refine ⟨c, k, Interval.contains_of_search hfound, ?_⟩
  unfold shortest
  rw [if_neg hpos.ne']
  dsimp only
  rw [hfound]

theorem Interval.Contains.pos (hpos : 0 < d.significand) {x : ℚ} (h : d.interval.Contains x) :
    0 < x := by
  have hnear := (h.near hpos).pos hpos
  have hunit : (0 : ℚ) < 2 ^ d.exponent := by positivity
  exact (div_pos_iff_of_pos_right hunit).1 hnear

/-- The shortest decimal of a positive number has proper digits and lies in its interval. -/
theorem contains_shortest (hpos : 0 < d.significand) :
    IsNumeral d.shortest.digits ∧ d.interval.Contains d.shortest.value := by
  obtain ⟨c, k, hcontains, hshortest⟩ := exists_of_shortest hpos
  have hne : c ≠ 0 := by
    rintro rfl
    have := Interval.Contains.pos hpos hcontains
    simp at this
  rw [hshortest]
  exact ⟨(isNumeral_toDigits hne).stripZeros, (value_stripZeros c k).symm ▸ hcontains⟩

end Double
end Fleet.Decimal
