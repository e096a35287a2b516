import Fleet.Instant

/-! # The calendar

The date that `dateOfDays` finds is the one that `daysOfDate` counts the days to.  `dateOfDays_eq` says
how the days from the start of 1970 fall into eras of 400 years, years that start in March, and
months, from which both functions are inverse. -/

namespace Fleet.Instant

/-! ### Years of an era -/

/-- The days of an era fall into centuries, groups of four years, and days; only the last century
has its last leap day. -/
structure Group (dayOfEra century group day : Int) : Prop where
  sum : dayOfEra = 36524 * century + 1461 * group + day
  centuries : 0 ≤ century ∧ century ≤ 3
  groups : 0 ≤ group ∧ group ≤ 24
  days : 0 ≤ day ∧ day ≤ 1460
  short : group = 24 → day ≤ 1459

theorem exists_group {dayOfEra : Int} (h : 0 ≤ dayOfEra) (h' : dayOfEra < 146096) :
    ∃ century group day, Group dayOfEra century group day := by
  refine ⟨dayOfEra / 36524, dayOfEra % 36524 / 1461, dayOfEra % 36524 % 1461, ?_⟩
  constructor <;> omega

/-- The year of the era that `dateOfDays` finds. -/
def yearOfEra (dayOfEra : Int) : Int :=
  (dayOfEra - dayOfEra / 1460 + dayOfEra / 36524 - dayOfEra / 146096) / 365

theorem Group.yearOfEra_eq {dayOfEra c g d : Int} (h : Group dayOfEra c g d) :
    yearOfEra dayOfEra = 100 * c + 4 * g + (if d = 1460 then 3 else d / 365) := by
  obtain ⟨hsum, hc, hg, hd, hshort⟩ := h
  have hquotients : dayOfEra / 36524 = c ∧ dayOfEra / 146096 = 0 ∧
      dayOfEra / 1460 = 25 * c + g + (24 * c + g + d) / 1460 := by omega
  unfold yearOfEra
  rw [hquotients.1, hquotients.2.1, hquotients.2.2, hsum]
  split <;> omega

/-- Where the days of an era fall: in a year from March, and on a day of it, which is the 366th only
in years that end with a leap day. -/
structure Place (dayOfEra year day : Int) : Prop where
  sum : dayOfEra = 365 * year + year / 4 - year / 100 + day
  years : 0 ≤ year ∧ year ≤ 399
  days : 0 ≤ day ∧ day ≤ 365
  leap : day = 365 → (year + 1) % 4 = 0 ∧ ((year + 1) % 100 ≠ 0 ∨ year = 399)

theorem place_yearOfEra {dayOfEra : Int} (h : 0 ≤ dayOfEra) (h' : dayOfEra ≤ 146096) :
    Place dayOfEra (yearOfEra dayOfEra) (dayOfEra - (365 * yearOfEra dayOfEra +
      yearOfEra dayOfEra / 4 - yearOfEra dayOfEra / 100)) := by
  rcases Int.lt_or_eq_of_le h' with hlt | rfl
  · obtain ⟨c, g, d, hgroup⟩ := exists_group h hlt
    have hyear := hgroup.yearOfEra_eq
    obtain ⟨hsum, hc, hg, hd, hshort⟩ := hgroup
    have hdays : (if d = 1460 then 3 else d / 365) = 3 ∧ 1095 ≤ d ∨
        (if d = 1460 then 3 else d / 365) = d / 365 ∧ d < 1095 := by
      split <;> omega
    generalize (if d = 1460 then 3 else d / 365) = n at hyear hdays
    have hfour : (100 * c + 4 * g + n) / 4 = 25 * c + g := by omega
    have hhundred : (100 * c + 4 * g + n) / 100 = c := by omega
    rw [hyear, hfour, hhundred]
    constructor
    · omega
    · omega
    · omega
    · omega
  · have hlast : yearOfEra 146096 = 399 := by decide
    rw [hlast]
    constructor <;> omega

/-! ### The calendar -/

/-- The month, counted from March, and the day of the month of a day of the year. -/
structure MonthDay (dayOfYear month day : Int) : Prop where
  sum : dayOfYear = (153 * month + 2) / 5 + day - 1
  months : 0 ≤ month ∧ month ≤ 11
  first : 1 ≤ day
  last : day ≤ (153 * (month + 1) + 2) / 5 - (153 * month + 2) / 5

theorem monthDay {dayOfYear : Int} (h : 0 ≤ dayOfYear) (h' : dayOfYear ≤ 365) :
    MonthDay dayOfYear ((5 * dayOfYear + 2) / 153)
      (dayOfYear - (153 * ((5 * dayOfYear + 2) / 153) + 2) / 5 + 1) := by
  constructor <;> omega

/-- A date as days, eras, years from March and months from March. -/
structure IsDate (days era year dayOfYear month day : Int) : Prop where
  sum : days + 719468 = era * 146097 + (365 * year + year / 4 - year / 100 + dayOfYear)
  place : Place (365 * year + year / 4 - year / 100 + dayOfYear) year dayOfYear
  monthDay : MonthDay dayOfYear month day

theorem dateOfDays_eq (days : Int) : ∃ era year dayOfYear month day,
    IsDate days era year dayOfYear month day ∧ dateOfDays days =
      (if month < 10 then year + era * 400 else year + era * 400 + 1,
        (if month < 10 then month + 3 else month - 9).toNat, day.toNat) := by
  obtain ⟨era, hera⟩ : ∃ era, era = (days + 719468) / 146097 := ⟨_, rfl⟩
  obtain ⟨dayOfEra, hday⟩ : ∃ d, d = days + 719468 - era * 146097 := ⟨_, rfl⟩
  have hplace := @place_yearOfEra dayOfEra (by omega) (by omega)
  obtain ⟨year, hyear⟩ : ∃ year, year = yearOfEra dayOfEra := ⟨_, rfl⟩
  rw [← hyear] at hplace
  obtain ⟨dayOfYear, hdayOfYear⟩ : ∃ d, d = dayOfEra - (365 * year + year / 4 - year / 100) :=
    ⟨_, rfl⟩
  rw [← hdayOfYear] at hplace
  have hmonthDay := monthDay hplace.days.1 hplace.days.2
  have hsum := hplace.sum
  refine ⟨era, year, dayOfYear, _, _, ⟨by omega, hsum ▸ hplace, hmonthDay⟩, ?_⟩
  have hfdiv : ∀ a b : Int, 0 ≤ b → a.fdiv b = a / b := fun a b h => Int.fdiv_eq_ediv_of_nonneg a h
  unfold dateOfDays
  simp only [hfdiv _ _ (by decide : (0 : Int) ≤ 146097), hfdiv _ _ (by decide : (0 : Int) ≤ 1460),
    hfdiv _ _ (by decide : (0 : Int) ≤ 36524), hfdiv _ _ (by decide : (0 : Int) ≤ 146096),
    hfdiv _ _ (by decide : (0 : Int) ≤ 365), hfdiv _ _ (by decide : (0 : Int) ≤ 4),
    hfdiv _ _ (by decide : (0 : Int) ≤ 100), hfdiv _ _ (by decide : (0 : Int) ≤ 153),
    hfdiv _ _ (by decide : (0 : Int) ≤ 5)]
  rw [← hera, ← hday]
  have hfold : (dayOfEra - dayOfEra / 1460 + dayOfEra / 36524 - dayOfEra / 146096) / 365 = year :=
    hyear.symm
  rw [hfold, ← hdayOfYear]
  obtain ⟨month, hmonth⟩ : ∃ m, m = (5 * dayOfYear + 2) / 153 := ⟨_, rfl⟩
  have hmonths := hmonthDay.months
  rw [← hmonth] at hmonths ⊢
  congr 1
  by_cases h : month < 10
  · rw [if_pos h, if_pos h, if_neg (by omega)]
  · rw [if_neg h, if_neg h, if_pos (by omega)]

/-- A year from March and a month of it as the year and month that dates are written with. -/
theorem daysOfDate_eq {days era year dayOfYear month day : Int}
    (h : IsDate days era year dayOfYear month day) :
    daysOfDate (if month < 10 then year + era * 400 else year + era * 400 + 1)
      (if month < 10 then month + 3 else month - 9).toNat day.toNat = days := by
  obtain ⟨hsum, ⟨-, hyears, hdays, hleap⟩, ⟨hday, hmonths, hfirst, hlast⟩⟩ := h
  have hfdiv : ∀ a b : Int, 0 ≤ b → a.fdiv b = a / b := fun a b h => Int.fdiv_eq_ediv_of_nonneg a h
  have hera : (year + era * 400) / 400 = era := by omega
  have hyear : year + era * 400 - era * 400 = year := by omega
  have hdayNat : (day.toNat : Int) = day := by omega
  unfold daysOfDate
  simp only [hfdiv _ _ (by decide : (0 : Int) ≤ 400), hfdiv _ _ (by decide : (0 : Int) ≤ 4),
    hfdiv _ _ (by decide : (0 : Int) ≤ 100), hfdiv _ _ (by decide : (0 : Int) ≤ 5)]
  by_cases hlate : month < 10
  · have hmonthNat : ((month + 3).toNat : Int) = month + 3 := by omega
    have hback : ((month + 3).toNat : Int) - 3 = month := by omega
    rw [if_pos hlate, if_pos hlate, if_neg (by omega), if_pos (by omega), hera, hyear, hback,
      hdayNat]
    omega
  · have hback : ((month - 9).toNat : Int) + 9 = month := by omega
    have hbefore : year + era * 400 + 1 - 1 = year + era * 400 := by omega
    rw [if_neg hlate, if_neg hlate, if_pos (by omega), if_neg (by omega), hbefore, hera, hyear,
      hback, hdayNat]
    omega

/-- A date of the calendar. -/
structure IsValidDate (year : Int) (month day : Nat) : Prop where
  months : 1 ≤ month ∧ month ≤ 12
  days : 1 ≤ day ∧ day ≤ daysInMonth year month

theorem isValidDate {days era year dayOfYear month day : Int}
    (h : IsDate days era year dayOfYear month day) :
    IsValidDate (if month < 10 then year + era * 400 else year + era * 400 + 1)
      (if month < 10 then month + 3 else month - 9).toNat day.toNat := by
  obtain ⟨-, ⟨-, hyears, hdays, hleap⟩, ⟨hday, hmonths, hfirst, hlast⟩⟩ := h
  have hcases : month = 0 ∨ month = 1 ∨ month = 2 ∨ month = 3 ∨ month = 4 ∨ month = 5 ∨
      month = 6 ∨ month = 7 ∨ month = 8 ∨ month = 9 ∨ month = 10 ∨ month = 11 := by omega
  rcases hcases with rfl | rfl | rfl | rfl | rfl | rfl | rfl | rfl | rfl | rfl | rfl | rfl
  -- all months but the last, February, have their days in every year
  iterate 11
    · refine ⟨by decide, by omega, ?_⟩
      first
        | show day.toNat ≤ 31
          omega
        | show day.toNat ≤ 30
          omega
  · refine ⟨by decide, by omega, ?_⟩
    have hyear : daysInMonth (year + era * 400 + 1) 2 =
        if isLeap (year + era * 400 + 1) then 29 else 28 := rfl
    show day.toNat ≤ daysInMonth (year + era * 400 + 1) 2
    rw [hyear]
    by_cases hlastDay : dayOfYear = 365
    · obtain ⟨hfour, hhundred⟩ := hleap hlastDay
      have hisLeap : isLeap (year + era * 400 + 1) = true := by
        unfold isLeap
        simp only [Bool.and_eq_true, Bool.or_eq_true, beq_iff_eq, bne_iff_ne]
        omega
      rw [if_pos hisLeap]
      omega
    · split <;> omega

/-- The years of the instants between the first and the last. -/
theorem year_bounds {days era year dayOfYear month day : Int}
    (h : IsDate days era year dayOfYear month day) (hfirst : -96465292 ≤ days)
    (hlast : days ≤ 95026236) :
    -262143 ≤ (if month < 10 then year + era * 400 else year + era * 400 + 1) ∧
      (if month < 10 then year + era * 400 else year + era * 400 + 1) ≤ 262142 := by
  obtain ⟨hsum, ⟨-, hyears, hdays, -⟩, ⟨hday, hmonths, hfirstDay, hlength⟩⟩ := h
  have hrange : 0 ≤ 365 * year + year / 4 - year / 100 ∧
      365 * year + year / 4 - year / 100 ≤ 145731 := by omega
  have hera : -656 ≤ era ∧ era ≤ 655 := by omega
  -- only in the first and the last era do the bounds say anything about the year
  have hfirstEra : era = -656 → 255 < year ∧ (year = 256 → 306 ≤ dayOfYear) := by omega
  have hlastEra : era = 655 → year < 143 ∧ (year = 142 → dayOfYear < 306) := by omega
  have hmonth : month < 10 ↔ dayOfYear < 306 := by omega
  split <;> omega

end Fleet.Instant
