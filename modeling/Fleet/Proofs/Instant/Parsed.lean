import Fleet.Proofs.Instant.Printed

/-! # What instants are read

Only instants of the calendar are ever read, whatever the text (`isCalendar_of_parse`). -/

namespace Fleet.Instant

theorem Reads.exists_of_bind {α β : Type} {p : Parser α} {f : α → Parser β}
    {cs rest : List Char} {b : β} (h : Reads (p >>= f) cs b rest) :
    ∃ a cs', Reads p cs a cs' ∧ Reads (f a) cs' b rest := by
  unfold Reads at *
  rw [StateT.run_bind] at h
  cases hp : p.run cs with
  | error e =>
      rw [hp] at h
      cases h
  | ok q =>
      rw [hp] at h
      exact ⟨q.1, q.2, rfl, h⟩

theorem ofDigitChars_lt {ds : List Char} (h : ∀ c ∈ ds, isDigit c = true) (init : Nat) :
    Nat.ofDigitChars 10 ds init < 10 ^ ds.length * (init + 1) := by
  induction ds generalizing init with
  | nil =>
      rw [Nat.ofDigitChars_nil, List.length_nil, Nat.pow_zero]
      omega
  | cons c ds ih =>
      have hc := h c List.mem_cons_self
      unfold isDigit at hc
      rw [Bool.and_eq_true, decide_eq_true_iff, decide_eq_true_iff] at hc
      have hhigh : c.toNat ≤ 57 := hc.2
      have hzero : '0'.toNat = 48 := rfl
      have hnext := ih (fun c hc => h c (List.mem_cons_of_mem _ hc)) (10 * init + (c.toNat - '0'.toNat))
      rw [Nat.ofDigitChars_cons, List.length_cons, Nat.pow_succ, Nat.mul_assoc]
      refine Nat.lt_of_lt_of_le hnext (Nat.mul_le_mul_left _ ?_)
      omega

theorem of_reads_digits {most : Nat} {cs ds rest : List Char} (h : Reads (digits most) cs ds rest) :
    ds.length ≤ most ∧ ∀ c ∈ ds, isDigit c = true := by
  unfold Reads at h
  rw [run_digits] at h
  split at h
  · cases h
  split at h
  · cases h
  cases h
  refine ⟨?_, fun c hc => List.all_eq_true.1 List.all_takeWhile c hc⟩
  exact Nat.le_trans (List.takeWhile_sublist _).length_le (by rw [List.length_take]; exact Nat.min_le_left _ _)

theorem lt_of_reads_fraction {n : Nat} {cs rest : List Char} (h : Reads fraction cs n rest) :
    n < nanosPerSecond := by
  obtain ⟨_, cs₁, hget, h⟩ := h.exists_of_bind
  split at h
  · obtain ⟨_, cs₂, -, h⟩ := h.exists_of_bind
    obtain ⟨ds, cs₃, hds, h⟩ := h.exists_of_bind
    obtain ⟨_, cs₄, -, h⟩ := h.exists_of_bind
    cases h
    obtain ⟨hlength, hdigits⟩ := of_reads_digits hds
    have hlt := ofDigitChars_lt hdigits 0
    rw [Nat.zero_add, Nat.mul_one] at hlt
    have hpow : 10 ^ ds.length * 10 ^ (9 - ds.length) = nanosPerSecond := by
      rw [← Nat.pow_add, Nat.add_sub_cancel' hlength]
      rfl
    rw [digitsValue_eq, ← hpow]
    exact Nat.mul_lt_mul_of_pos_right hlt (Nat.pow_pos (by decide))
  · cases h
    decide

theorem mod_of_reads_offset {shift : Int} {cs rest : List Char} (h : Reads offset cs shift rest) :
    shift % 60 = 0 := by
  obtain ⟨_, cs₁, -, h⟩ := h.exists_of_bind
  obtain ⟨_, cs₂, -, h⟩ := h.exists_of_bind
  split at h
  · obtain ⟨_, cs₃, -, h⟩ := h.exists_of_bind
    cases h
    rfl
  split at h
  · obtain ⟨_, cs₃, -, h⟩ := h.exists_of_bind
    cases h
    rfl
  obtain ⟨negative, cs₃, -, h⟩ := h.exists_of_bind
  obtain ⟨hours, cs₄, -, h⟩ := h.exists_of_bind
  obtain ⟨_, cs₅, -, h⟩ := h.exists_of_bind
  obtain ⟨minutes, cs₆, -, h⟩ := h.exists_of_bind
  cases h
  split <;> omega

/-- Parts within their bounds are put together to instants of the calendar only. -/
theorem isCalendar_of_assemble {y shift : Int} {month day hour minute second nanos : Nat}
    {t : Instant} (hnanos : nanos < nanosPerSecond) (hshift : shift % 60 = 0)
    (h : assemble y month day hour minute second nanos shift = .ok t) : t.IsCalendar := by
  unfold assemble at h
  split at h
  · cases h
  split at h
  · cases h
  by_cases hleap : second = 60
  · rw [if_pos hleap] at h
    dsimp only at h
    split at h
    · cases h
    · next hrange =>
        cases h
        constructor
        all_goals
          dsimp only
          omega
  · rw [if_neg hleap] at h
    dsimp only at h
    split at h
    · cases h
    · next hrange =>
        cases h
        constructor
        all_goals
          dsimp only
          omega

theorem assemble_of_reads_finish {y shift : Int} {month day hour minute second nanos : Nat}
    {t : Instant} {cs rest : List Char}
    (h : Reads (finish y month day hour minute second nanos shift) cs t rest) :
    assemble y month day hour minute second nanos shift = .ok t := by
  have hfinish : (if cs.isEmpty then
      (assemble y month day hour minute second nanos shift).map (fun t => (t, cs))
    else .error .tooLong) = .ok (t, rest) := h
  split at hfinish
  · cases ha : assemble y month day hour minute second nanos shift with
    | error e =>
        rw [ha] at hfinish
        cases hfinish
    | ok t' =>
        rw [ha] at hfinish
        cases hfinish
        rfl
  · cases hfinish

/-- Only instants of the calendar are read. -/
theorem isCalendar_of_parse {s : String} {t : Instant} (h : parse s = .ok t) : t.IsCalendar := by
  obtain ⟨rest, hread⟩ : ∃ rest, Reads instant s.toList t rest := by
    unfold parse at h
    cases hrun : instant.run s.toList with
    | error e =>
        rw [hrun] at h
        cases h
    | ok q =>
        rw [hrun] at h
        cases h
        exact ⟨q.2, hrun⟩
  rw [instant_eq] at hread
  obtain ⟨y, _, -, hread⟩ := hread.exists_of_bind
  obtain ⟨_, _, -, hread⟩ := hread.exists_of_bind
  obtain ⟨month, _, -, hread⟩ := hread.exists_of_bind
  obtain ⟨_, _, -, hread⟩ := hread.exists_of_bind
  obtain ⟨day, _, -, hread⟩ := hread.exists_of_bind
  obtain ⟨_, _, -, hread⟩ := hread.exists_of_bind
  obtain ⟨hour, _, -, hread⟩ := hread.exists_of_bind
  obtain ⟨_, _, -, hread⟩ := hread.exists_of_bind
  obtain ⟨minute, _, -, hread⟩ := hread.exists_of_bind
  obtain ⟨_, _, -, hread⟩ := hread.exists_of_bind
  obtain ⟨second, _, -, hread⟩ := hread.exists_of_bind
  obtain ⟨nanos, _, hnanos, hread⟩ := hread.exists_of_bind
  obtain ⟨shift, _, hshift, hread⟩ := hread.exists_of_bind
  obtain ⟨_, cs, -, hread⟩ := hread.exists_of_bind
  exact isCalendar_of_assemble (lt_of_reads_fraction hnanos) (mod_of_reads_offset hshift)
    (assemble_of_reads_finish hread)

end Fleet.Instant
