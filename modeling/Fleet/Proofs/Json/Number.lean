import Fleet.Json.Printer
import Fleet.Json.Reader
import Fleet.Proofs.Decimal.Shortest

/-! # Numerals read back

A number is written as a numeral, with a minus before it where there is one (`Number.print_eq`).  What
is read of a numeral is the numeral, whatever follows it, as long as that does not go on with the number
(`readNumber_print`).  Whether the numeral stands for the number that was written is a question of its
own: integers are digits only, and for them it does (`Number.value_integer`). -/

namespace Fleet.Json

open Decimal

/-! ### Digits -/

/-- What may follow a value inside a container, or at the end of a text. -/
def Terminated (rest : Source) : Prop :=
  ∀ u, rest.head? = some u → u = some ',' ∨ u = some ']' ∨ u = some '}'

theorem natOfDigits_eq (ds : List Char) : natOfDigits ds = Nat.ofDigitChars 10 ds 0 := by
  unfold natOfDigits Nat.ofDigitChars
  congr 1
  funext n c
  rw [Nat.mul_comm]

theorem isDigit_of_numeral {ds : List Char} (h : ∀ c ∈ ds, c.isDigit = true) (u : Option Char)
    (hu : u ∈ ds.map some) : isDigit u = true := by
  obtain ⟨c, hc, rfl⟩ := List.mem_map.1 hu
  exact h c hc

/-- Whether the next unit is no digit. -/
def NoDigit (rest : Source) : Prop := ∀ u, rest.head? = some u → isDigit u = false

theorem Terminated.noDigit {rest : Source} (h : Terminated rest) : NoDigit rest := by
  intro u hu
  rcases h u hu with rfl | rfl | rfl <;> rfl

theorem noDigit_cons {c : Char} (rest : Source) (h : c.isDigit = false) :
    NoDigit (some c :: rest) := by
  intro u hu
  cases hu
  exact h

theorem takeWhile_isDigit {rest : Source} (h : NoDigit rest) : rest.takeWhile isDigit = [] := by
  cases rest with
  | nil => rfl
  | cons u rest => exact List.takeWhile_cons_of_neg (by rw [h u rfl]; decide)

theorem dropWhile_isDigit {rest : Source} (h : NoDigit rest) : rest.dropWhile isDigit = rest := by
  cases rest with
  | nil => rfl
  | cons u rest => exact List.dropWhile_cons_of_neg (by rw [h u rfl]; decide)

theorem leadingDigits_append {ds : List Char} {rest : Source} (hds : ∀ c ∈ ds, c.isDigit = true)
    (h : NoDigit rest) : leadingDigits (ds.map some ++ rest) = ds := by
  unfold leadingDigits
  rw [List.takeWhile_append_of_pos (isDigit_of_numeral hds), takeWhile_isDigit h, List.append_nil,
    List.filterMap_map]
  exact List.filterMap_some

theorem afterDigits_append {ds : List Char} {rest : Source} (hds : ∀ c ∈ ds, c.isDigit = true)
    (h : NoDigit rest) : afterDigits (ds.map some ++ rest) = rest := by
  unfold afterDigits
  rw [List.dropWhile_append_of_pos (isDigit_of_numeral hds), dropWhile_isDigit h]

/-! ### Numerals -/

/-- The digits before the point. -/
def IsWhole (ds : List Char) : Prop := ds = ['0'] ∨ IsNumeral ds

theorem IsWhole.digit {ds : List Char} (h : IsWhole ds) : ∀ c ∈ ds, c.isDigit = true := by
  rcases h with rfl | h
  · intro c hc
    rw [List.mem_singleton.1 hc]
    rfl
  · exact h.digit

theorem isWhole_toDigits (n : Nat) : IsWhole (Nat.toDigits 10 n) := by
  by_cases hn : n = 0
  · subst hn
    exact Or.inl (Nat.toDigits_zero 10)
  · exact Or.inr (isNumeral_toDigits hn)

theorem isDigit_of_mem_replicate {n : Nat} {c : Char} (h : c ∈ List.replicate n '0') :
    c.isDigit = true := by
  rw [List.eq_of_mem_replicate h]
  rfl

namespace Numeral

/-- What is written of a numeral behind its sign. -/
def print (n : Numeral) : List Char :=
  n.whole ++ (if n.fraction.isEmpty then [] else '.' :: n.fraction) ++
    n.exponent.elim [] (fun e => 'e' :: (if e < 0 then '-' else '+') :: Nat.toDigits 10 e.natAbs)

/-- The numeral is made of digits, and does not begin with a zero that is not all there is before the
point. -/
structure IsProper (n : Numeral) : Prop where
  whole : IsWhole n.whole
  fraction : ∀ c ∈ n.fraction, c.isDigit = true

theorem IsProper.head {n : Numeral} (h : n.IsProper) :
    ∃ c cs, n.print = c :: cs ∧ c.isDigit = true := by
  have hcons : ∃ c cs, n.whole = c :: cs := by
    rcases h.whole with hzero | hwhole
    · exact ⟨'0', [], hzero⟩
    · obtain ⟨c, cs, hdigits, -⟩ := hwhole.head
      exact ⟨c, cs, hdigits⟩
  obtain ⟨c, cs, hdigits⟩ := hcons
  refine ⟨c, cs ++ _ ++ _, by rw [print, hdigits]; rfl, h.whole.digit c ?_⟩
  rw [hdigits]
  exact List.mem_cons_self

end Numeral

theorem readNumeral_append {whole : List Char} {rest : Source} (negative : Bool)
    (hwhole : IsWhole whole) (h : NoDigit rest) :
    readNumeral negative (whole.map some ++ rest) = readFraction negative whole rest := by
  unfold readNumeral
  rw [leadingDigits_append hwhole.digit h, afterDigits_append hwhole.digit h]
  rcases hwhole with rfl | hwhole
  · rfl
  · obtain ⟨c, cs, rfl, hc⟩ := hwhole.head
    split
    · next heq => cases heq
    · next heq => exact absurd (List.cons.inj heq).1 hc
    · rfl

theorem readFraction_of_terminated {rest : Source} (negative : Bool) (whole : List Char)
    (h : Terminated rest) :
    readFraction negative whole rest = .ok (⟨negative, whole, [], none⟩, rest) := by
  cases rest with
  | nil => rfl
  | cons u rest => rcases h u rfl with rfl | rfl | rfl <;> rfl

theorem readExponent_minus (s : Source) (n : Nat) (hn : leadingDigits s = Nat.toDigits 10 n) :
    readExponent (some '-' :: s) = .ok (-(n : Int), afterDigits s) := by
  simp only [readExponent, hn]
  split
  · next hnil => exact absurd hnil Nat.toDigits_ne_nil
  · rw [if_pos trivial, natOfDigits_eq, Nat.ofDigitChars_ten_toDigits]

theorem readExponent_plus (s : Source) (n : Nat) (hn : leadingDigits s = Nat.toDigits 10 n) :
    readExponent (some '+' :: s) = .ok ((n : Int), afterDigits s) := by
  simp only [readExponent, hn]
  split
  · next hnil => exact absurd hnil Nat.toDigits_ne_nil
  · rw [if_neg Bool.false_ne_true, natOfDigits_eq, Nat.ofDigitChars_ten_toDigits]

/-- The exponent as it is printed. -/
theorem readExponent_append (e : Int) {rest : Source} (h : NoDigit rest) :
    readExponent (some (if e < 0 then '-' else '+') ::
      ((Nat.toDigits 10 e.natAbs).map some ++ rest)) = .ok (e, rest) := by
  have hdigits := (isWhole_toDigits e.natAbs).digit
  have hleading := leadingDigits_append hdigits h
  have hafter := afterDigits_append hdigits h
  by_cases hneg : e < 0
  · have he : -(e.natAbs : Int) = e := by omega
    rw [if_pos hneg, readExponent_minus _ _ hleading, hafter, he]
  · have he : (e.natAbs : Int) = e := by omega
    rw [if_neg hneg, readExponent_plus _ _ hleading, hafter, he]

theorem readFraction_point {fraction : List Char} {rest : Source} (negative : Bool)
    (whole : List Char) (hfraction : ∀ c ∈ fraction, c.isDigit = true) (hne : fraction ≠ [])
    (h : Terminated rest) :
    readFraction negative whole (some '.' :: (fraction.map some ++ rest)) =
      .ok (⟨negative, whole, fraction, none⟩, rest) := by
  simp only [readFraction, leadingDigits_append hfraction h.noDigit,
    afterDigits_append hfraction h.noDigit]
  cases rest with
  | nil => rfl
  | cons u rest => rcases h u rfl with rfl | rfl | rfl <;> rfl

theorem readFraction_exponent {rest : Source} (negative : Bool) (whole : List Char) (e : Int)
    (h : NoDigit rest) :
    readFraction negative whole (some 'e' :: some (if e < 0 then '-' else '+') ::
      ((Nat.toDigits 10 e.natAbs).map some ++ rest)) = .ok (⟨negative, whole, [], some e⟩, rest) := by
  simp only [readFraction, readExponent_append e h]
  rfl

theorem readFraction_point_exponent {fraction : List Char} {rest : Source} (negative : Bool)
    (whole : List Char) (hfraction : ∀ c ∈ fraction, c.isDigit = true) (hne : fraction ≠ [])
    (e : Int) (h : NoDigit rest) :
    readFraction negative whole (some '.' :: (fraction.map some ++ some 'e' ::
      some (if e < 0 then '-' else '+') :: ((Nat.toDigits 10 e.natAbs).map some ++ rest))) =
      .ok (⟨negative, whole, fraction, some e⟩, rest) := by
  have hstop := noDigit_cons (some (if e < 0 then '-' else '+') ::
    ((Nat.toDigits 10 e.natAbs).map some ++ rest)) (c := 'e') rfl
  simp only [readFraction, leadingDigits_append hfraction hstop,
    afterDigits_append hfraction hstop, readExponent_append e h]
  rfl

/-- What is written of a numeral reads as the numeral. -/
theorem readNumeral_print {n : Numeral} (hn : n.IsProper) {rest : Source} (h : Terminated rest) :
    readNumeral n.negative (n.print.map some ++ rest) = .ok (n, rest) := by
  obtain ⟨negative, whole, fraction, exponent⟩ := n
  obtain ⟨hwhole, hfraction⟩ := hn
  dsimp only at hwhole hfraction ⊢
  cases fraction with
  | nil =>
      cases exponent with
      | none =>
          have hprint : (Numeral.mk negative whole [] none).print.map some ++ rest =
              whole.map some ++ rest := by
            simp [Numeral.print]
          rw [hprint, readNumeral_append negative hwhole h.noDigit,
            readFraction_of_terminated negative whole h]
      | some e =>
          have hprint : (Numeral.mk negative whole [] (some e)).print.map some ++ rest =
              whole.map some ++ (some 'e' :: some (if e < 0 then '-' else '+') ::
                ((Nat.toDigits 10 e.natAbs).map some ++ rest)) := by
            simp [Numeral.print]
          rw [hprint, readNumeral_append negative hwhole (noDigit_cons _ rfl),
            readFraction_exponent negative whole e h.noDigit]
  | cons x xs =>
      have hne : x :: xs ≠ [] := List.cons_ne_nil x xs
      cases exponent with
      | none =>
          have hprint : (Numeral.mk negative whole (x :: xs) none).print.map some ++ rest =
              whole.map some ++ (some '.' :: ((x :: xs).map some ++ rest)) := by
            simp [Numeral.print]
          rw [hprint, readNumeral_append negative hwhole (noDigit_cons _ rfl),
            readFraction_point negative whole hfraction hne h]
      | some e =>
          have hprint : (Numeral.mk negative whole (x :: xs) (some e)).print.map some ++ rest =
              whole.map some ++ (some '.' :: ((x :: xs).map some ++ some 'e' ::
                some (if e < 0 then '-' else '+') ::
                  ((Nat.toDigits 10 e.natAbs).map some ++ rest))) := by
            simp [Numeral.print]
          rw [hprint, readNumeral_append negative hwhole (noDigit_cons _ rfl),
            readFraction_point_exponent negative whole hfraction hne e h.noDigit]

theorem readNumber_print {n : Numeral} (hn : n.IsProper) {rest : Source} (h : Terminated rest) :
    readNumber n.negative (n.print.map some ++ rest) = (.number n.value, .ok rest) := by
  unfold readNumber
  rw [readNumeral_print hn h]

/-! ### Layouts of binary64 numbers -/

/-- The numeral that a decimal is laid out as. -/
def numeralOf (negative : Bool) (s : Digits) : Numeral :=
  if s.exponent < doubleFormat.low ∨ doubleFormat.high ≤ s.exponent then
    ⟨negative, s.digits.take 1, s.digits.drop 1, some s.exponent⟩
  else if s.exponent < 0 then
    ⟨negative, ['0'], List.replicate ((-s.exponent).toNat - 1) '0' ++ s.digits, none⟩
  else
    let n := s.exponent.toNat + 1
    if s.digits.length ≤ n then
      ⟨negative, s.digits ++ List.replicate (n - s.digits.length) '0', ['0'], none⟩
    else ⟨negative, s.digits.take n, s.digits.drop n, none⟩

theorem negative_numeralOf (negative : Bool) (s : Digits) :
    (numeralOf negative s).negative = negative := by
  unfold numeralOf
  dsimp only
  split
  · rfl
  split
  · rfl
  split <;> rfl

/-- The digits of a decimal that is laid out. -/
def IsPrintable (s : Digits) : Prop := s = ⟨['0'], 0⟩ ∨ IsNumeral s.digits

theorem isPrintable_shortest (d : Double) : IsPrintable d.shortest := by
  rcases Nat.eq_zero_or_pos d.significand with hzero | hpos
  · refine Or.inl ?_
    unfold Double.shortest
    rw [if_pos hzero]
  · exact Or.inr (Double.contains_shortest hpos).1

theorem isProper_numeralOf (negative : Bool) {s : Digits} (h : IsPrintable s) :
    (numeralOf negative s).IsProper := by
  have hzero : ∀ c ∈ ['0'], c.isDigit = true := by
    intro c hc
    rw [List.mem_singleton.1 hc]
    rfl
  rcases h with rfl | h
  · exact ⟨Or.inl rfl, hzero⟩
  obtain ⟨c, cs, hdigits, hc⟩ := h.head
  -- the first digits, as many as there are before the point
  have htake : ∀ n, IsWhole (s.digits.take (n + 1)) := by
    intro n
    refine Or.inr ⟨fun x hx => h.digit x (List.mem_of_mem_take hx), c, cs.take n, ?_, hc⟩
    rw [hdigits, List.take_succ_cons]
  have hdrop : ∀ n, ∀ x ∈ s.digits.drop n, x.isDigit = true :=
    fun n x hx => h.digit x (List.mem_of_mem_drop hx)
  unfold numeralOf
  dsimp only
  split
  · exact ⟨htake 0, hdrop 1⟩
  split
  · refine ⟨Or.inl rfl, fun x hx => ?_⟩
    rcases List.mem_append.1 hx with hx | hx
    · exact isDigit_of_mem_replicate hx
    · exact h.digit x hx
  split
  · refine ⟨Or.inr ⟨fun x hx => ?_, c, _, by rw [hdigits]; rfl, hc⟩, hzero⟩
    rcases List.mem_append.1 hx with hx | hx
    · exact h.digit x hx
    · exact isDigit_of_mem_replicate hx
  · exact ⟨htake s.exponent.toNat, hdrop (s.exponent.toNat + 1)⟩

/-! ### Numbers -/

/-- The numeral that a number is written as. -/
def Number.numeral : Number → Numeral
  | .integer i _ => ⟨decide (i < 0), Nat.toDigits 10 i.natAbs, [], none⟩
  | .double d => numeralOf d.negative d.shortest

theorem Number.isProper_numeral (n : Number) : n.numeral.IsProper := by
  cases n with
  | integer i h => exact ⟨isWhole_toDigits _, nofun⟩
  | double d => exact isProper_numeralOf d.negative (isPrintable_shortest d)

/-- A decimal is laid out as its numeral. -/
theorem print_numeralOf (negative : Bool) {s : Digits} (h : IsPrintable s) :
    (numeralOf negative s).print =
      if s.exponent < doubleFormat.low ∨ doubleFormat.high ≤ s.exponent then
        withExponent s.digits s.exponent
      else if s.exponent < 0 then
        '0' :: '.' :: List.replicate ((-s.exponent).toNat - 1) '0' ++ s.digits
      else withPoint s.digits (s.exponent.toNat + 1) := by
  have hne : s.digits ≠ [] := by
    rcases h with rfl | h
    · exact List.cons_ne_nil _ _
    · obtain ⟨c, cs, hdigits, -⟩ := h.head
      rw [hdigits]
      exact List.cons_ne_nil c cs
  unfold numeralOf withPoint
  dsimp only
  split
  · rfl
  split
  · simp [Numeral.print, hne]
  split
  · simp [Numeral.print]
  · next hlength =>
      have hdrop : s.digits.drop (s.exponent.toNat + 1) ≠ [] := by
        rw [Ne, List.drop_eq_nil_iff]
        exact hlength
      simp [Numeral.print, hlength]

/-- A number is written as its numeral. -/
theorem Number.print_eq (n : Number) :
    n.print = if n.numeral.negative then '-' :: n.numeral.print else n.numeral.print := by
  cases n with
  | integer i h =>
      show printInt i = _
      unfold printInt
      simp [Number.numeral, Numeral.print]
  | double d =>
      show printDouble d = _
      unfold printDouble Number.numeral
      rw [negative_numeralOf, print_numeralOf d.negative (isPrintable_shortest d)]

/-- The numeral of an integer stands for it. -/
theorem Number.value_integer {i : Int} (h : FitsInteger i) :
    (Number.integer i h).numeral.value = .ok (.integer i h) := by
  have hnat : natOfDigits (Nat.toDigits 10 i.natAbs) = i.natAbs := by
    rw [natOfDigits_eq, Nat.ofDigitChars_ten_toDigits]
  have hi : (if decide (i < 0) = true then -(i.natAbs : Int) else i.natAbs) = i := by
    by_cases hneg : i < 0
    · rw [if_pos (decide_eq_true hneg)]
      omega
    · rw [if_neg (by rw [decide_eq_true_iff]; exact hneg)]
      omega
  have hzero : ¬ (decide (i < 0) = true ∧ i.natAbs = 0) := by
    rw [decide_eq_true_iff]
    omega
  unfold Number.numeral Numeral.value
  simp only [hnat, hi, hzero, h, and_self, not_false_eq_true, dite_true]

end Fleet.Json
