import Fleet.Proofs.Instant.Calendar
import Mathlib.Algebra.Group.Nat.Defs

/-! # Printed instants are read back

An instant of the calendar that is written and read again is the same instant (`parse_print`). -/

namespace Fleet.Instant

/-! ### Parts of a text -/

/-- A parser takes `a` off the front of a text and leaves the rest. -/
def Reads {α : Type} (p : Parser α) (cs : List Char) (a : α) (rest : List Char) : Prop :=
  p.run cs = .ok (a, rest)

theorem Reads.bind {α β : Type} {p : Parser α} {f : α → Parser β} {cs cs' rest : List Char}
    {a : α} {b : β} (hp : Reads p cs a cs') (hf : Reads (f a) cs' b rest) :
    Reads (p >>= f) cs b rest := by
  unfold Reads at *
  rw [StateT.run_bind, hp]
  exact hf

theorem reads_pure {α : Type} (a : α) (cs : List Char) : Reads (pure a) cs a cs := rfl

theorem reads_get (cs : List Char) : Reads get cs cs cs := rfl

theorem reads_set (cs cs' : List Char) : Reads (set cs') cs () cs' := rfl

theorem reads_modify (f : List Char → List Char) (cs : List Char) :
    Reads (modify f) cs () (f cs) := rfl

theorem digitsValue_eq (ds : List Char) : digitsValue ds = Nat.ofDigitChars 10 ds 0 := by
  unfold digitsValue Nat.ofDigitChars
  congr 1
  funext n c
  rw [Nat.mul_comm]

theorem reads_blanks {c : Char} (h : Text.isBlank c = false) (cs : List Char) :
    Reads blanks (c :: cs) () (c :: cs) := by
  unfold Reads blanks Text.trimStart
  rw [StateT.run_modify, List.dropWhile_cons_of_neg (by rw [h]; decide)]
  rfl

/-- Whether the next character is no digit. -/
def NoDigit (cs : List Char) : Prop := ∀ c, cs.head? = some c → isDigit c = false

theorem takeWhile_isDigit {cs : List Char} (h : NoDigit cs) : cs.takeWhile isDigit = [] := by
  cases cs with
  | nil => rfl
  | cons c cs => exact List.takeWhile_cons_of_neg (by rw [h c rfl]; decide)

theorem run_digits (most : Nat) (cs : List Char) :
    (digits most).run cs =
      if cs.isEmpty then .error .tooShort
      else if ((cs.take most).takeWhile isDigit).isEmpty then .error .invalid
      else .ok ((cs.take most).takeWhile isDigit,
        cs.drop ((cs.take most).takeWhile isDigit).length) := by
  unfold digits
  rw [StateT.run_bind, StateT.run_get]
  generalize hds : (cs.take most).takeWhile isDigit = ds
  change StateT.run (do
    if cs.isEmpty then throw .tooShort
    let ds := (cs.take most).takeWhile isDigit
    if ds.isEmpty then throw .invalid
    set (cs.drop ds.length)
    return ds : Parser (List Char)) cs = _
  rw [hds]
  cases cs with
  | nil => rfl
  | cons c cs => cases ds <;> rfl

theorem reads_digits (most : Nat) {ds : List Char} (rest : List Char) (hds : ∀ c ∈ ds, isDigit c = true)
    (hne : ds ≠ []) (hlength : ds.length ≤ most) (hstop : ds.length = most ∨ NoDigit rest) :
    Reads (digits most) (ds ++ rest) ds rest := by
  have htake : ((ds ++ rest).take most).takeWhile isDigit = ds := by
    rw [List.take_append, List.take_of_length_le hlength, List.takeWhile_append_of_pos hds]
    have hrest : (rest.take (most - ds.length)).takeWhile isDigit = [] := by
      rcases hstop with heq | hstop
      · rw [heq, Nat.sub_self, List.take_zero]
        rfl
      · refine takeWhile_isDigit (fun c hc => hstop c ?_)
        cases rest with
        | nil => simp at hc
        | cons x xs =>
            cases hmost : most - ds.length with
            | zero => simp [hmost] at hc
            | succ n =>
                rw [hmost] at hc
                exact hc
    rw [hrest, List.append_nil]
  have hempty : (ds ++ rest).isEmpty = false := by
    rw [List.isEmpty_eq_false_iff]
    exact List.append_ne_nil_of_left_ne_nil hne rest
  have hdigits : ds.isEmpty = false := List.isEmpty_eq_false_iff.2 hne
  unfold Reads
  rw [run_digits, htake, hempty, hdigits, List.drop_left]
  rfl

/-! ### Parts of a printed instant -/

theorem length_padded {width n : Nat} (hwidth : 0 < width) (h : n < 10 ^ width) :
    (padded width n).length = width := by
  have hlength := (Nat.length_toDigits_le_iff (by decide : 1 < 10) hwidth).2 h
  unfold padded
  rw [List.length_append, List.length_replicate]
  omega

theorem isDigit_padded (width n : Nat) : ∀ c ∈ padded width n, isDigit c = true := by
  intro c hc
  rcases List.mem_append.1 hc with hc | hc
  · rw [List.eq_of_mem_replicate hc]
    rfl
  · exact Nat.isDigit_of_mem_toDigits (by decide) (by decide) hc

theorem digitsValue_padded (width n : Nat) : digitsValue (padded width n) = n := by
  unfold padded
  rw [digitsValue_eq, Nat.ofDigitChars_append, Nat.ofDigitChars_replicate_zero, Nat.mul_zero,
    Nat.ofDigitChars_ten_toDigits]

theorem padded_ne_nil (width n : Nat) : padded width n ≠ [] :=
  List.append_ne_nil_of_right_ne_nil _ Nat.toDigits_ne_nil

theorem isBlank_of_isDigit {c : Char} (h : isDigit c = true) : Text.isBlank c = false := by
  unfold isDigit at h
  rw [Bool.and_eq_true, decide_eq_true_iff, decide_eq_true_iff] at h
  have hlow : 48 ≤ c.toNat := h.1
  have hhigh : c.toNat ≤ 57 := h.2
  unfold Text.isBlank
  simp only [Bool.or_eq_false_iff, Bool.and_eq_false_iff, decide_eq_false_iff_not, beq_eq_false_iff_ne]
  omega

theorem isDigit_of_padded_append {width n : Nat} {c : Char} {cs rest : List Char}
    (h : padded width n ++ rest = c :: cs) : isDigit c = true := by
  have hmem : c ∈ padded width n := by
    cases hdigits : padded width n with
    | nil => exact absurd hdigits (padded_ne_nil width n)
    | cons d ds =>
        rw [hdigits] at h
        exact (List.cons.inj h).1 ▸ List.mem_cons_self
  exact isDigit_padded width n c hmem

theorem reads_blanks_padded (width n : Nat) (rest : List Char) :
    Reads blanks (padded width n ++ rest) () (padded width n ++ rest) := by
  cases hdigits : padded width n with
  | nil => exact absurd hdigits (padded_ne_nil width n)
  | cons c cs =>
      have hc : isDigit c = true := isDigit_padded width n c (hdigits ▸ List.mem_cons_self)
      exact reads_blanks (isBlank_of_isDigit hc) _

theorem reads_number {n low high : Nat} (rest : List Char) (hn : n < 100) (hlow : low ≤ n)
    (hhigh : n ≤ high) : Reads (number 2 low high) (padded 2 n ++ rest) n rest := by
  have hlength : (padded 2 n).length = 2 := length_padded (by decide) hn
  have hdigits := reads_digits 2 rest (isDigit_padded 2 n) (padded_ne_nil 2 n)
    (Nat.le_of_eq hlength) (Or.inl hlength)
  refine (reads_blanks_padded 2 n rest).bind (hdigits.bind ?_)
  rw [digitsValue_padded, if_pos ⟨hlow, hhigh⟩]
  exact reads_pure n rest

theorem reads_mark {c : Char} (h : Text.isBlank c = false) (rest : List Char) :
    Reads (mark c) (c :: rest) () rest := by
  refine (reads_blanks h rest).bind ((reads_get _).bind ?_)
  dsimp only
  rw [if_pos rfl]
  exact reads_set _ _

theorem reads_separator (rest : List Char) : Reads separator ('T' :: rest) () rest := rfl

theorem reads_wholeNumber {n : Nat} {rest : List Char} (hn : n < 9223372036854775808)
    (hrest : NoDigit rest) : Reads wholeNumber (padded 4 n ++ rest) n rest := by
  have hdigits := reads_digits (padded 4 n ++ rest).length rest
    (isDigit_padded 4 n) (padded_ne_nil 4 n) (by rw [List.length_append]; exact Nat.le_add_right _ _)
    (Or.inr hrest)
  refine (reads_get _).bind (hdigits.bind ?_)
  rw [digitsValue_padded, if_pos hn]
  exact reads_pure n rest

theorem reads_year {y : Int} (rest : List Char) (hlow : -262143 ≤ y) (hhigh : y ≤ 262142) :
    Reads year (printYear y ++ '-' :: rest) y ('-' :: rest) := by
  have hstop : NoDigit ('-' :: rest) := by
    intro c hc
    cases hc
    rfl
  have hrange : -2147483648 ≤ y ∧ y < 2147483648 := by omega
  have hfinish : Reads (if -2147483648 ≤ y ∧ y < 2147483648 then pure y else throw .outOfRange)
      ('-' :: rest) y ('-' :: rest) := by
    rw [if_pos hrange]
    exact reads_pure _ _
  unfold printYear
  by_cases hplain : 0 ≤ y ∧ y ≤ 9999
  · rw [if_pos hplain]
    have hlength : (padded 4 y.toNat).length = 4 := length_padded (by decide) (by omega)
    have hdigits := reads_digits 4 ('-' :: rest) (isDigit_padded 4 y.toNat)
      (padded_ne_nil 4 y.toNat) (Nat.le_of_eq hlength) (Or.inl hlength)
    have hvalue : (digitsValue (padded 4 y.toNat) : Int) = y := by
      rw [digitsValue_padded]
      omega
    refine (reads_blanks_padded 4 y.toNat _).bind (Reads.bind (a := y) ?_ hfinish)
    refine (reads_get _).bind ?_
    split
    · next heq => exact absurd (isDigit_of_padded_append heq) (by decide)
    · next heq => exact absurd (isDigit_of_padded_append heq) (by decide)
    · refine hdigits.bind ?_
      rw [hvalue]
      exact reads_pure _ _
  · rw [if_neg hplain]
    have hnumber := reads_wholeNumber (n := y.natAbs) (by omega) hstop
    by_cases hneg : y < 0
    · rw [if_pos hneg]
      refine (reads_blanks (by decide) _).bind (Reads.bind (a := y) ?_ hfinish)
      refine (reads_get _).bind ((reads_set _ _).bind (hnumber.bind ?_))
      have hvalue : -(y.natAbs : Int) = y := by omega
      rw [hvalue]
      exact reads_pure _ _
    · rw [if_neg hneg]
      refine (reads_blanks (by decide) _).bind (Reads.bind (a := y) ?_ hfinish)
      refine (reads_get _).bind ((reads_set _ _).bind (hnumber.bind ?_))
      have hvalue : (y.natAbs : Int) = y := by omega
      rw [hvalue]
      exact reads_pure _ _

theorem reads_fraction_digits (width n : Nat) (hwidth : 0 < width) (hwidth' : width ≤ 9)
    (hn : n < 10 ^ width) : Reads fraction ('.' :: (padded width n ++ ['Z']))
      (n * Nat.pow 10 (9 - width)) ['Z'] := by
  have hlength : (padded width n).length = width := length_padded hwidth hn
  have hstop : NoDigit ['Z'] := by
    intro c hc
    cases hc
    rfl
  have hdigits := reads_digits 9 ['Z'] (isDigit_padded width n)
    (padded_ne_nil width n) (by omega) (Or.inr hstop)
  refine (reads_get _).bind ((reads_set _ _).bind (hdigits.bind
    ((reads_modify (List.dropWhile isDigit) ['Z']).bind ?_)))
  rw [digitsValue_padded, hlength]
  exact reads_pure _ _

theorem reads_fraction {nanos : Nat} (h : nanos < nanosPerSecond) :
    Reads fraction (printFraction nanos ++ ['Z']) nanos ['Z'] := by
  have hbound : nanos < 1000000000 := h
  unfold printFraction
  by_cases hzero : nanos = 0
  · subst hzero
    rfl
  rw [if_neg hzero]
  by_cases hmillis : nanos % 1000000 = 0
  · have hread := reads_fraction_digits 3 (nanos / 1000000) (by decide) (by decide)
      (by omega)
    have hvalue : nanos / 1000000 * Nat.pow 10 (9 - 3) = nanos :=
      Nat.div_mul_cancel (Nat.dvd_of_mod_eq_zero hmillis)
    rw [hvalue] at hread
    rw [if_pos hmillis]
    exact hread
  rw [if_neg hmillis]
  by_cases hmicros : nanos % 1000 = 0
  · have hread := reads_fraction_digits 6 (nanos / 1000) (by decide) (by decide)
      (by omega)
    have hvalue : nanos / 1000 * Nat.pow 10 (9 - 6) = nanos :=
      Nat.div_mul_cancel (Nat.dvd_of_mod_eq_zero hmicros)
    rw [hvalue] at hread
    rw [if_pos hmicros]
    exact hread
  rw [if_neg hmicros]
  have hread := reads_fraction_digits 9 nanos (by decide) (by decide) (by omega)
  have hvalue : nanos * Nat.pow 10 (9 - 9) = nanos := Nat.mul_one nanos
  rw [hvalue] at hread
  exact hread

theorem reads_offset : Reads offset ['Z'] 0 [] := by
  refine (reads_blanks (by decide) []).bind ((reads_get _).bind ?_)
  rfl

/-! ### Instants -/

/-- The instants between the first and the last of the calendar, leap seconds only at the end of a
minute. -/
structure IsCalendar (t : Instant) : Prop where
  first : firstSecond ≤ t.seconds
  last : t.seconds ≤ lastSecond
  nanos : t.nanos < 2 * nanosPerSecond
  leap : nanosPerSecond ≤ t.nanos → t.seconds % 60 = 59

theorem firstSecond_eq : firstSecond = -96465292 * 86400 := by decide

theorem lastSecond_eq : lastSecond = 95026236 * 86400 + 86399 := by decide

/-- What the parts of an instant amount to, once all of them have been read. -/
def assemble (y : Int) (month day hour minute second nanos : Nat) (shift : Int) :
    Except ParseError Instant :=
  if 86400 ≤ shift.natAbs then .error .outOfRange
  else if y < yearRange.1 ∨ yearRange.2 < y ∨ daysInMonth y month < day then .error .outOfRange
  else
    let (second, nanos) := if second = 60 then (59, nanos + nanosPerSecond) else (second, nanos)
    let ofDay := hour * 3600 + minute * 60 + second
    let seconds := daysOfDate y month day * 86400 + ofDay - shift
    if seconds < firstSecond ∨ lastSecond < seconds then .error .outsideCalendar
    else .ok ⟨seconds, nanos⟩

/-- Nothing may follow the parts of an instant. -/
def finish (y : Int) (month day hour minute second nanos : Nat) (shift : Int) : Parser Instant :=
  fun cs =>
    if cs.isEmpty then (assemble y month day hour minute second nanos shift).map (fun t => (t, cs))
    else .error .tooLong

theorem instant_eq : instant = (do
    let y ← year
    mark '-'
    let month ← number 2 1 12
    mark '-'
    let day ← number 2 1 31
    separator
    let hour ← number 2 0 23
    mark ':'
    let minute ← number 2 0 59
    mark ':'
    let second ← number 2 0 60
    let nanos ← fraction
    let shift ← offset
    blanks
    finish y month day hour minute second nanos shift) := by
  unfold instant
  refine bind_congr fun y => bind_congr fun _ => bind_congr fun month => bind_congr fun _ =>
    bind_congr fun day => bind_congr fun _ => bind_congr fun hour => bind_congr fun _ =>
    bind_congr fun minute => bind_congr fun _ => bind_congr fun second => bind_congr fun nanos =>
    bind_congr fun shift => bind_congr fun _ => ?_
  funext cs
  unfold finish assemble
  cases cs with
  | cons c cs => rfl
  | nil =>
      show StateT.run (do
        if 86400 ≤ shift.natAbs then throw .outOfRange
        if y < yearRange.1 ∨ yearRange.2 < y ∨ daysInMonth y month < day then throw .outOfRange
        let (second, nanos) := if second = 60 then (59, nanos + nanosPerSecond) else (second, nanos)
        let ofDay := hour * 3600 + minute * 60 + second
        let seconds := daysOfDate y month day * 86400 + ofDay - shift
        if seconds < firstSecond ∨ lastSecond < seconds then throw .outsideCalendar
        return ⟨seconds, nanos⟩ : Parser Instant) [] = _
      rw [List.isEmpty_nil, if_pos rfl]
      generalize (if second = 60 then (59, nanos + nanosPerSecond) else (second, nanos)) = p
      obtain ⟨second, nanos⟩ := p
      by_cases hshift : 86400 ≤ shift.natAbs
      · rw [if_pos hshift, if_pos hshift]
        rfl
      rw [if_neg hshift, if_neg hshift]
      by_cases hdate : y < yearRange.1 ∨ yearRange.2 < y ∨ daysInMonth y month < day
      · rw [if_pos hdate, if_pos hdate]
        rfl
      rw [if_neg hdate, if_neg hdate]
      dsimp only
      split <;> rfl

/-- The text of an instant, part by part. -/
theorem toList_print (t : Instant) {y : Int} {month day ofDay : Nat}
    (hdate : dateOfDays (t.seconds.fdiv 86400) = (y, month, day))
    (hofDay : ofDay = (t.seconds - t.seconds.fdiv 86400 * 86400).toNat) :
    t.print.toList = printYear y ++ '-' :: (padded 2 month ++ '-' :: (padded 2 day ++ 'T' ::
      (padded 2 (ofDay / 3600) ++ ':' :: (padded 2 (ofDay / 60 % 60) ++ ':' ::
        (padded 2 (ofDay % 60 + t.nanos / nanosPerSecond) ++
          (printFraction (t.nanos % nanosPerSecond) ++ ['Z'])))))) := by
  unfold print printSeconds
  dsimp only
  rw [String.toList_ofList, hdate, ← hofDay]
  simp only [List.append_assoc, List.cons_append]

theorem reads_instant {y : Int} {month day hour minute second nanos : Nat} {t : Instant}
    (hyear : -262143 ≤ y ∧ y ≤ 262142) (hmonth : 1 ≤ month ∧ month ≤ 12)
    (hday : 1 ≤ day ∧ day ≤ 31) (hhour : hour ≤ 23) (hminute : minute ≤ 59) (hsecond : second ≤ 60)
    (hnanos : nanos < nanosPerSecond)
    (h : assemble y month day hour minute second nanos 0 = .ok t) :
    Reads instant (printYear y ++ '-' :: (padded 2 month ++ '-' :: (padded 2 day ++ 'T' ::
      (padded 2 hour ++ ':' :: (padded 2 minute ++ ':' :: (padded 2 second ++
        (printFraction nanos ++ ['Z']))))))) t [] := by
  rw [instant_eq]
  refine (reads_year _ hyear.1 hyear.2).bind ((reads_mark (by decide) _).bind
    ((reads_number _ (by omega) hmonth.1 hmonth.2).bind ((reads_mark (by decide) _).bind
    ((reads_number _ (by omega) hday.1 hday.2).bind ((reads_separator _).bind
    ((reads_number _ (by omega) (Nat.zero_le _) hhour).bind ((reads_mark (by decide) _).bind
    ((reads_number _ (by omega) (Nat.zero_le _) hminute).bind ((reads_mark (by decide) _).bind
    ((reads_number _ (by omega) (Nat.zero_le _) hsecond).bind ((reads_fraction hnanos).bind
    (reads_offset.bind ((reads_modify _ _).bind ?_)))))))))))))
  have hfinish : finish y month day hour minute second nanos 0 [] =
      (assemble y month day hour minute second nanos 0).map (fun t => (t, [])) := rfl
  exact hfinish.trans (by rw [h]; rfl)

theorem daysInMonth_le (y : Int) (month : Nat) : daysInMonth y month ≤ 31 := by
  unfold daysInMonth
  split
  · split <;> decide
  · decide
  · decide
  · decide
  · decide
  · decide

/-- A date and what is written of the time of day are put together to the instant. -/
theorem assemble_eq {y seconds : Int} {month day ofDay nanos : Nat}
    (hyear : -262143 ≤ y ∧ y ≤ 262142) (hday : day ≤ daysInMonth y month)
    (hseconds : daysOfDate y month day * 86400 + ofDay = seconds)
    (h : IsCalendar ⟨seconds, nanos⟩) :
    assemble y month day (ofDay / 3600) (ofDay / 60 % 60) (ofDay % 60 + nanos / nanosPerSecond)
      (nanos % nanosPerSecond) 0 = .ok ⟨seconds, nanos⟩ := by
  obtain ⟨hfirst, hlast, hnanos, hleap⟩ := h
  dsimp only at hfirst hlast hnanos hleap
  have hwhole : nanos < nanosPerSecond ∧ nanos / nanosPerSecond = 0 ∧
      nanos % nanosPerSecond = nanos ∨ nanosPerSecond ≤ nanos ∧ nanos / nanosPerSecond = 1 ∧
      nanos % nanosPerSecond + nanosPerSecond = nanos := by
    have hnanosPerSecond : nanosPerSecond = 1000000000 := rfl
    rw [hnanosPerSecond] at hnanos ⊢
    omega
  have hdate : ¬ (y < yearRange.1 ∨ yearRange.2 < y ∨ daysInMonth y month < day) := by
    have hrange : yearRange.1 = -262143 ∧ yearRange.2 = 262142 := ⟨rfl, rfl⟩
    rw [hrange.1, hrange.2]
    omega
  unfold assemble
  rw [if_neg (by decide), if_neg hdate]
  rcases hwhole with ⟨hlt, hdiv, hmod⟩ | ⟨hle, hdiv, hmod⟩
  · have hsum : daysOfDate y month day * 86400 + ((ofDay / 3600 * 3600 +
        ofDay / 60 % 60 * 60 + (ofDay % 60 + 0) : Nat) : Int) - 0 = seconds := by omega
    rw [hdiv, hmod, if_neg (by omega)]
    dsimp only
    rw [hsum, if_neg (by omega)]
  · -- a leap second is written as the sixtieth of its minute
    have hleap := hleap hle
    have hlastSecond : ofDay % 60 + 1 = 60 := by omega
    have hsum : daysOfDate y month day * 86400 + ((ofDay / 3600 * 3600 +
        ofDay / 60 % 60 * 60 + 59 : Nat) : Int) - 0 = seconds := by omega
    rw [hdiv, if_pos hlastSecond]
    dsimp only
    rw [hsum, if_neg (by omega), hmod]

/-- What is written of an instant of the calendar is read as the instant. -/
theorem parse_print {t : Instant} (h : t.IsCalendar) : parse t.print = .ok t := by
  obtain ⟨seconds, nanos⟩ := t
  have hfirst := firstSecond_eq ▸ h.first
  have hlast := lastSecond_eq ▸ h.last
  dsimp only at hfirst hlast
  have hfdiv : seconds.fdiv 86400 = seconds / 86400 := Int.fdiv_eq_ediv_of_nonneg _ (by decide)
  obtain ⟨ofDay, hofDay⟩ : ∃ n : Nat, n = (seconds - seconds.fdiv 86400 * 86400).toNat := ⟨_, rfl⟩
  obtain ⟨era, yoe, dayOfYear, mfm, dom, hdate, hdateOfDays⟩ := dateOfDays_eq (seconds.fdiv 86400)
  have hdays := daysOfDate_eq hdate
  obtain ⟨hmonth, hday⟩ := isValidDate hdate
  have hyear := year_bounds hdate (by omega) (by omega)
  generalize (if mfm < 10 then yoe + era * 400 else yoe + era * 400 + 1) = y at *
  generalize (if mfm < 10 then mfm + 3 else mfm - 9).toNat = month at *
  generalize dom.toNat = day at *
  have hlong : day ≤ 31 := Nat.le_trans hday.2 (daysInMonth_le y month)
  have hparts := toList_print ⟨seconds, nanos⟩ hdateOfDays hofDay
  have hseconds : daysOfDate y month day * 86400 + ofDay = seconds := by omega
  have hassemble := assemble_eq hyear hday.2 hseconds h
  have hsecond : ofDay % 60 + nanos / nanosPerSecond ≤ 60 := by
    have hwhole : nanos / nanosPerSecond < 2 := Nat.div_lt_of_lt_mul h.nanos
    omega
  have hread := reads_instant hyear hmonth ⟨hday.1, hlong⟩ (by omega) (by omega) hsecond
    (Nat.mod_lt _ (by decide)) hassemble
  unfold parse
  rw [hparts, hread]
  rfl

end Fleet.Instant
