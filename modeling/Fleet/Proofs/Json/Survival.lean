import Fleet.Proofs.Decimal.Reading
import Fleet.Proofs.Json.Number
import Fleet.Proofs.Json.Value

/-! # Binary64 numbers that survive their text form

A binary64 number is written as a decimal that rounds to it, but decimals are read in the quick way,
which need not round: the number that `1e-24` reads as is written `1.0000000000000001e-24`, and this
reads as the number next to it.  So whether a number is read from its own text is a property that some
numbers have (`Double.Survives`), and a value survives its text form if the binary64 numbers in it do
(`Value.Survives`).

It depends on the digits that are written, not on what follows them (`survives_iff`), and numbers that
are written with few digits and a small power of ten survive (`survives_of_few_digits`). -/

namespace Fleet

open Decimal

/-- The number is read from the text that it is written as. -/
def Decimal.Double.Survives (d : Double) : Prop :=
  Json.parse (.ofString (Json.Value.number (.double d)).render) = .ok (.number (.double d))

instance (d : Double) : Decidable d.Survives := inferInstanceAs (Decidable (_ = _))

namespace Json

/-- The binary64 numbers in the value survive their text form. -/
def Value.Survives (v : Value) : Prop := ∀ d ∈ v.doubles, d.Survives

instance (v : Value) : Decidable v.Survives := inferInstanceAs (Decidable (∀ d ∈ _, _))

/-! ### Where values start -/

/-- No blank, no comma and no closing bracket. -/
structure Opens (c : Char) : Prop where
  blank : isSpace c = false
  comma : c ≠ ','
  bracket : c ≠ ']'
  brace : c ≠ '}'

theorem skipSpace_of_opens {c : Char} (h : Opens c) (s : Source) :
    skipSpace (some c :: s) = some c :: s := by
  rw [skipSpace, if_neg (by rw [h.blank]; decide)]

theorem digit_bounds {c : Char} (h : c.isDigit = true) : 48 ≤ c.toNat ∧ c.toNat ≤ 57 := by
  unfold Char.isDigit at h
  rw [Bool.and_eq_true, decide_eq_true_iff, decide_eq_true_iff] at h
  exact ⟨h.1, h.2⟩

theorem ne_of_digit {c d : Char} (h : c.isDigit = true) (hd : d.toNat < 48 ∨ 57 < d.toNat) :
    c ≠ d := by
  rintro rfl
  have := digit_bounds h
  omega

theorem opens_digit {c : Char} (h : c.isDigit = true) : Opens c := by
  refine ⟨?_, ne_of_digit h (by decide), ne_of_digit h (by decide), ne_of_digit h (by decide)⟩
  unfold isSpace
  rw [decide_eq_false (ne_of_digit h (by decide)), decide_eq_false (ne_of_digit h (by decide)),
    decide_eq_false (ne_of_digit h (by decide)), decide_eq_false (ne_of_digit h (by decide))]
  rfl

/-! ### Reading by the first character -/

variable {fuel depth : Nat}

theorem readValue_minus (s : Source) :
    readValue (fuel + 1) depth (some '-' :: s) = readNumber true s := by
  rw [readValue]
  rfl

theorem readValue_digit {c : Char} (h : c.isDigit = true) (s : Source) :
    readValue (fuel + 1) depth (some c :: s) = readNumber false (some c :: s) := by
  rw [readValue, skipSpace_of_opens (opens_digit h)]
  split
  · next heq => cases heq
  · next heq =>
      cases heq
      cases h
  · next heq =>
      cases heq
      cases h
  · next heq =>
      cases heq
      cases h
  · next heq =>
      cases heq
      cases h
  · next heq =>
      cases heq
      cases h
  · next heq =>
      cases heq
      cases h
  · next heq =>
      cases heq
      cases h
  · exact if_pos h

/-! ### Numbers as values -/

/-- What is read of a number that is written is what its numeral stands for. -/
theorem readValue_number (n : Number) {rest : Source} (h : Terminated rest) :
    readValue (fuel + 1) depth (n.print.map some ++ rest) = (.number n.numeral.value, .ok rest) := by
  have hread := readNumber_print n.isProper_numeral h
  rw [n.print_eq]
  by_cases hneg : n.numeral.negative = true
  · rw [hneg] at hread
    rw [if_pos hneg]
    exact (readValue_minus _).trans hread
  · rw [if_neg hneg]
    rw [Bool.not_eq_true] at hneg
    rw [hneg] at hread
    obtain ⟨c, cs, hdigits, hc⟩ := n.isProper_numeral.head
    rw [hdigits] at hread ⊢
    exact (readValue_digit hc _).trans hread

theorem parse_number (n : Number) :
    parse (.ofString (Value.number n).render) = n.numeral.value.map .number := by
  have hsource : Source.ofString (Value.number n).render = n.print.map some ++ [] := by
    unfold Source.ofString Value.render
    rw [String.toList_ofList, List.append_nil, Value.print]
  have hend : Terminated [] := fun u hu => by cases hu
  unfold parse readText
  rw [hsource, readValue_number n hend]
  cases n.numeral.value <;> rfl

/-! ### Survival -/

/-- Whether a number survives is told by its numeral alone. -/
theorem survives_iff {d : Double} :
    d.Survives ↔ (Number.double d).numeral.value = .ok (.double d) := by
  unfold Double.Survives
  rw [parse_number]
  cases (Number.double d).numeral.value with
  | error e => exact ⟨nofun, nofun⟩
  | ok n =>
      constructor
      · intro h
        cases h
        rfl
      · intro h
        cases h
        rfl

theorem Value.survives_of_doubles_nil {v : Value} (h : v.doubles = []) : v.Survives := by
  intro d hd
  rw [h] at hd
  cases hd

/-- The numeral of a number that survives, or that is an integer, stands for it. -/
theorem value_numeral {n : Number} (h : (Value.number n).Survives) : n.numeral.value = .ok n := by
  cases n with
  | integer i hfits => exact Number.value_integer hfits
  | double d => exact survives_iff.1 (h d List.mem_cons_self)

/-! ### Numbers of few digits -/

/-- What the digits of a numeral write without the point. -/
def Numeral.significand (n : Numeral) : Nat := natOfDigits (n.whole ++ n.fraction)

/-- The power of ten of the last digit. -/
def Numeral.power (n : Numeral) : Int := n.exponent.getD 0 - n.fraction.length

/-- The layout of a decimal is another way to write it. -/
theorem decimal_numeralOf (negative : Bool) {s : Digits} (h : IsNumeral s.digits) :
    ((numeralOf negative s).significand : ℚ) * 10 ^ (numeralOf negative s).power = s.value := by
  have hlength : 0 < s.digits.length := by
    obtain ⟨c, cs, hdigits, -⟩ := h.head
    rw [hdigits]
    exact Nat.succ_pos _
  unfold numeralOf Numeral.significand Numeral.power Digits.value
  rw [natOfDigits_eq]
  dsimp only
  split
  · -- one digit before the point
    rw [List.take_append_drop, List.length_drop]
    congr 2
    dsimp only [Option.getD_some]
    omega
  split
  · next hneg =>
      have hzeros : Nat.ofDigitChars 10
          (['0'] ++ (List.replicate ((-s.exponent).toNat - 1) '0' ++ s.digits)) 0 =
          Nat.ofDigitChars 10 s.digits 0 := by
        rw [List.singleton_append, Nat.ofDigitChars_cons, Nat.ofDigitChars_append,
          Nat.ofDigitChars_replicate_zero]
        rfl
      rw [hzeros, List.length_append, List.length_replicate]
      congr 2
      dsimp only [Option.getD_none]
      omega
  next hlow hneg =>
  obtain ⟨n, hn⟩ := Int.eq_ofNat_of_zero_le (Int.not_lt.1 hneg)
  rw [hn, Int.toNat_natCast]
  split
  · -- zeros up to the point, and one behind it
    next hle =>
      obtain ⟨zeros, hzeros⟩ : ∃ zeros, zeros = n + 1 - s.digits.length := ⟨_, rfl⟩
      rw [← hzeros]
      have hfilled : Nat.ofDigitChars 10 (s.digits ++ List.replicate zeros '0' ++ ['0']) 0 =
          10 ^ (zeros + 1) * Nat.ofDigitChars 10 s.digits 0 := by
        rw [List.append_assoc, ← List.replicate_succ', Nat.ofDigitChars_append,
          Nat.ofDigitChars_replicate_zero]
      have hexp : (n : Int) + 1 - s.digits.length = (zeros : Int) := by omega
      rw [hfilled, hexp, zpow_natCast]
      push_cast
      rw [List.length_singleton, pow_succ, Option.getD_none, Nat.cast_one, zero_sub, zpow_neg_one]
      field_simp
  · rw [List.take_append_drop, List.length_drop]
    congr 2
    dsimp only [Option.getD_none]
    omega

/-- A decimal is never laid out as an integer. -/
theorem not_integral_numeralOf (negative : Bool) {s : Digits} (h : IsNumeral s.digits) :
    ¬ ((numeralOf negative s).fraction = [] ∧ (numeralOf negative s).exponent = none) := by
  obtain ⟨c, cs, hdigits, -⟩ := h.head
  unfold numeralOf
  dsimp only
  split
  · exact fun h => nomatch h.2
  split
  · simp [hdigits]
  split
  · exact fun h => nomatch h.1
  · next hlength =>
      simp only [List.drop_eq_nil_iff, and_true]
      exact hlength

theorem survives_zero (negative : Bool) : (Double.zero negative).Survives := by
  cases negative <;> decide +kernel

/-- A number survives whose text has digits that write at most 53 bits and a small power of ten. -/
theorem survives_of_few_digits {d : Double}
    (hsignificand : (Number.double d).numeral.significand < 2 * leastFull)
    (hpower : (Number.double d).numeral.power.natAbs ≤ 22) : d.Survives := by
  rcases Nat.eq_zero_or_pos d.significand with hzero | hpos
  · obtain ⟨negative, significand, exponent, hcanonical⟩ := d
    obtain rfl : significand = 0 := hzero
    obtain rfl : exponent = -1074 := hcanonical.2.2.2.resolve_left (by decide)
    exact survives_zero negative
  · obtain ⟨hdigits, hcontains⟩ := Double.contains_shortest hpos
    have hdecimal := decimal_numeralOf d.negative hdigits
    have hintegral := not_integral_numeralOf d.negative hdigits
    have hnegative := negative_numeralOf d.negative d.shortest
    rw [survives_iff]
    unfold Number.numeral at hsignificand hpower ⊢
    dsimp only at hsignificand hpower ⊢
    generalize numeralOf d.negative d.shortest = n at *
    rw [← hdecimal] at hcontains
    unfold Numeral.significand at hsignificand hcontains
    unfold Numeral.power at hpower hcontains
    rw [natOfDigits_eq] at hsignificand hcontains
    have hread := Double.ofDigits?_eq_some hpos hsignificand hpower hcontains
    unfold Numeral.value
    dsimp only
    rw [dif_neg (fun h => hintegral ⟨h.1.1, h.1.2.1⟩), hnegative, hread]

/-- One half. -/
def half : Double := ⟨false, 4503599627370496, -53, by decide⟩

/-- One half survives; the number that is written `1.0000000000000001e-24` has too many digits. -/
example : half.Survives ∧
    ¬ (Double.mk false 5444517870735016 (-132) (by decide)).Survives := by decide +kernel

end Json
end Fleet
