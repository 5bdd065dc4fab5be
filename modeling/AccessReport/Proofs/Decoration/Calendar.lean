import AccessReport.Decoration.Timestamp
import Mathlib.Order.Basic
import Mathlib.Tactic.IntervalCases
/-!
# The calendar by counting

What the calendar is, said without the arithmetic of eras: which years are leap years, how long a
month is, and that a day has as its number all the days of years, months and the own month that
lie between it and the start of 1970.

A number of days determines its date, and the arithmetic finds it. It goes through years that start
in March: a year of an era is reached from its century, its four years and its own number
(`yearOfEra_parts`), and `ofMarch` is the date of a day of such a year.

* `daysToYear_eq`, `daysToMonth_march`: what the lengths of years and months add up to.
* `toDay_lt_toDay_iff`, `toDay_inj`: days are numbered in the order of their dates.
* `ofDay_valid`, `toDay_ofDay`: every number of days is that of a date of the calendar.
* `ofDay_year_le_iff`, `le_ofDay_year_iff`: the years that a range of days covers.
-/
namespace AccessReport.CivilDate

/-! ## Years and months -/

/-- Every fourth year is a leap year, but of the years that end a century only every fourth. -/
def IsLeap (year : Int) : Prop := 4 ∣ year ∧ (100 ∣ year → 400 ∣ year)

instance (year : Int) : Decidable (IsLeap year) :=
  inferInstanceAs (Decidable (4 ∣ year ∧ (100 ∣ year → 400 ∣ year)))

def daysInMonth (year : Int) (month : Nat) : Nat :=
  if month = 2 then if IsLeap year then 29 else 28
  else if month ∈ [4, 6, 9, 11] then 30 else 31

/-- A date that stands in the calendar. -/
structure Valid (date : CivilDate) : Prop where
  month_pos : 1 ≤ date.month
  month_le : date.month ≤ 12
  day_pos : 1 ≤ date.day
  day_le : date.day ≤ daysInMonth date.year date.month

theorem daysInMonth_le (year : Int) (month : Nat) : daysInMonth year month ≤ 31 := by
  unfold daysInMonth
  split
  · split <;> omega
  · split <;> omega

/-- The days of a year before a month. -/
def daysToMonth (year : Int) : Nat → Nat
  | 0 | 1 => 0
  | month + 2 => daysToMonth year (month + 1) + daysInMonth year (month + 1)

def daysInYear (year : Int) : Nat := daysToMonth year 13

/-- The days of so many years from a year on. -/
def daysInYears (year : Int) : Nat → Int
  | 0 => 0
  | years + 1 => daysInYear year + daysInYears (year + 1) years

/-- The days from the start of 1970 to the start of a year; negative for the years before. -/
def daysToYear (year : Int) : Int :=
  if 1970 ≤ year then daysInYears 1970 (year - 1970).toNat
  else -daysInYears year (1970 - year).toNat

/-- The days from the start of 1970 to a date. -/
def toDay (date : CivilDate) : Int :=
  daysToYear date.year + daysToMonth date.year date.month + date.day - 1

theorem daysInYear_eq (year : Int) : daysInYear year = if IsLeap year then 366 else 365 := by
  by_cases hleap : IsLeap year <;> simp [daysInYear, daysToMonth, daysInMonth, hleap]

/-- The days of a year are those by which the leap years before it and with it differ. -/
theorem daysInYear_eq_sub (year : Int) : (daysInYear year : Int)
    = 365 + (year / 4 - (year - 1) / 4) - (year / 100 - (year - 1) / 100)
      + (year / 400 - (year - 1) / 400) := by
  rw [daysInYear_eq]
  by_cases hleap : IsLeap year
  · rw [if_pos hleap]
    unfold IsLeap at hleap
    omega
  · rw [if_neg hleap]
    unfold IsLeap at hleap
    omega

theorem daysInYears_eq (year : Int) (years : Nat) :
    daysInYears year years
      = 365 * years + ((year + years - 1) / 4 - (year - 1) / 4)
        - ((year + years - 1) / 100 - (year - 1) / 100)
        + ((year + years - 1) / 400 - (year - 1) / 400) := by
  induction years generalizing year with
  | zero =>
    rw [daysInYears]
    omega
  | succ years ih =>
    rw [daysInYears, ih, daysInYear_eq_sub]
    omega

/-- The lengths of years, added up. -/
theorem daysToYear_eq (year : Int) :
    daysToYear year
      = 365 * (year - 1970) + (year - 1) / 4 - (year - 1) / 100 + (year - 1) / 400 - 477 := by
  unfold daysToYear
  split
  · rw [daysInYears_eq]
    omega
  · rw [daysInYears_eq]
    omega

theorem daysToYear_succ (year : Int) :
    daysToYear (year + 1) = daysToYear year + daysInYear year := by
  rw [daysToYear_eq, daysToYear_eq, daysInYear_eq_sub]
  omega

theorem daysToYear_mono {first second : Int} (h : first ≤ second) :
    daysToYear first ≤ daysToYear second := by
  rw [daysToYear_eq, daysToYear_eq]
  omega

theorem daysToMonth_succ (year : Int) {month : Nat} (h : 1 ≤ month) :
    daysToMonth year (month + 1) = daysToMonth year month + daysInMonth year month := by
  cases month with
  | zero => omega
  | succ month => rfl

theorem daysToMonth_mono (year : Int) {first second : Nat} (h : first ≤ second) :
    daysToMonth year first ≤ daysToMonth year second := by
  induction h with
  | refl => exact Nat.le_refl _
  | @step month _ ih =>
    refine ih.trans ?_
    cases month with
    | zero => exact Nat.le_refl 0
    | succ month => exact Nat.le_add_right _ _

/-- From March on, the lengths of months add up alike in all years. -/
theorem daysToMonth_march (year : Int) {months : Nat} (h : months < 10) :
    daysToMonth year (months + 3)
      = 59 + (if IsLeap year then 1 else 0) + (153 * months + 2) / 5 := by
  have hmarch : daysToMonth year 3 = 59 + if IsLeap year then 1 else 0 := by
    by_cases hleap : IsLeap year <;> simp [daysToMonth, daysInMonth, hleap]
  induction months with
  | zero => exact hmarch
  | succ months ih =>
    rw [Nat.add_right_comm, daysToMonth_succ year (by omega), ih (by omega)]
    have hmonths : months < 9 := by omega
    interval_cases months <;> simp [daysInMonth]

/-! ## Days are numbered in order -/

/-- One date comes before another. -/
def Earlier (first second : CivilDate) : Prop :=
  first.year < second.year ∨ first.year = second.year ∧
    (first.month < second.month ∨ first.month = second.month ∧ first.day < second.day)

/-- A day lies inside its year. -/
theorem Valid.toDay_bounds {date : CivilDate} (h : date.Valid) :
    daysToYear date.year ≤ date.toDay ∧ date.toDay < daysToYear (date.year + 1) := by
  have hpos := h.day_pos
  have hday := h.day_le
  have hmonth : daysToMonth date.year (date.month + 1) ≤ daysInYear date.year :=
    daysToMonth_mono date.year (Nat.succ_le_succ h.month_le)
  rw [daysToMonth_succ date.year h.month_pos] at hmonth
  rw [daysToYear_succ, toDay]
  omega

theorem toDay_lt_toDay {first second : CivilDate} (hfirst : first.Valid) (hsecond : second.Valid)
    (h : first.Earlier second) : first.toDay < second.toDay := by
  rcases h with hyear | ⟨hyear, hmonth | ⟨hmonth, hday⟩⟩
  · calc first.toDay
      _ < daysToYear (first.year + 1) := hfirst.toDay_bounds.2
      _ ≤ daysToYear second.year := daysToYear_mono hyear
      _ ≤ second.toDay := hsecond.toDay_bounds.1
  · have hlater := daysToMonth_mono first.year (Nat.succ_le_of_lt hmonth)
    have hday := hfirst.day_le
    have hpos := hsecond.day_pos
    rw [Nat.succ_eq_add_one, daysToMonth_succ first.year hfirst.month_pos] at hlater
    rw [toDay, toDay, ← hyear]
    omega
  · rw [toDay, toDay, ← hyear, ← hmonth]
    omega

theorem earlier_trichotomous (first second : CivilDate) :
    first.Earlier second ∨ first = second ∨ second.Earlier first := by
  obtain ⟨year, month, day⟩ := first
  obtain ⟨year', month', day'⟩ := second
  simp only [Earlier, CivilDate.mk.injEq]
  omega

theorem toDay_inj {first second : CivilDate} (hfirst : first.Valid) (hsecond : second.Valid)
    (h : first.toDay = second.toDay) : first = second := by
  rcases earlier_trichotomous first second with hlt | heq | hgt
  · exact absurd h (toDay_lt_toDay hfirst hsecond hlt).ne
  · exact heq
  · exact absurd h (toDay_lt_toDay hsecond hfirst hgt).ne'

theorem toDay_lt_toDay_iff {first second : CivilDate} (hfirst : first.Valid)
    (hsecond : second.Valid) : first.toDay < second.toDay ↔ first.Earlier second := by
  refine ⟨fun h => ?_, toDay_lt_toDay hfirst hsecond⟩
  rcases earlier_trichotomous first second with hlt | heq | hgt
  · exact hlt
  · exact absurd (congrArg toDay heq) h.ne
  · exact absurd (toDay_lt_toDay hsecond hfirst hgt) h.not_gt

/-! ## Years from March -/

/-- The date of a day of a year that starts in March, with the leap day as its last. -/
def ofMarch (year : Int) (dayOfYear : Nat) : CivilDate :=
  let months := monthsBefore dayOfYear
  let month := if months < 10 then months + 3 else months - 9
  { year := year + if month ≤ 2 then 1 else 0
    month
    day := dayOfYear - (153 * months + 2) / 5 + 1 }

/-- A day of a year from March to February. -/
def InMarchYear (year : Int) (dayOfYear : Nat) : Prop :=
  dayOfYear < 365 ∨ dayOfYear = 365 ∧ IsLeap (year + 1)

theorem monthsBefore_bounds {dayOfYear : Nat} (h : dayOfYear ≤ 365) :
    monthsBefore dayOfYear ≤ 11 ∧ (153 * monthsBefore dayOfYear + 2) / 5 ≤ dayOfYear ∧
      dayOfYear < (153 * (monthsBefore dayOfYear + 1) + 2) / 5 := by
  unfold monthsBefore
  omega

/-- Months from March to December, whose lengths are the same in all years. -/
theorem daysInMonth_march (year : Int) {months : Nat} (h : months < 10) :
    (153 * months + 2) / 5 + daysInMonth year (months + 3) = (153 * (months + 1) + 2) / 5 := by
  interval_cases months <;> rfl

theorem le_daysInMonth_february (year : Int) : 28 ≤ daysInMonth year 2 := by
  unfold daysInMonth
  by_cases hleap : IsLeap year <;> simp [hleap]

theorem ofMarch_march (year : Int) {dayOfYear : Nat} (h : monthsBefore dayOfYear < 10) :
    ofMarch year dayOfYear = ⟨year, monthsBefore dayOfYear + 3,
      dayOfYear - (153 * monthsBefore dayOfYear + 2) / 5 + 1⟩ := by
  have hmonth : ¬ monthsBefore dayOfYear + 3 ≤ 2 := by omega
  simp [ofMarch, h, hmonth]

theorem ofMarch_january (year : Int) {dayOfYear : Nat} (h : monthsBefore dayOfYear = 10) :
    ofMarch year dayOfYear = ⟨year + 1, 1, dayOfYear - 306 + 1⟩ := by
  simp [ofMarch, h]

theorem ofMarch_february (year : Int) {dayOfYear : Nat} (h : monthsBefore dayOfYear = 11) :
    ofMarch year dayOfYear = ⟨year + 1, 2, dayOfYear - 337 + 1⟩ := by
  simp [ofMarch, h]

/-- The month of a day: one from March to December, January, or February. -/
theorem monthsBefore_cases {dayOfYear : Nat} (h : dayOfYear ≤ 365) :
    monthsBefore dayOfYear < 10 ∨ monthsBefore dayOfYear = 10 ∨ monthsBefore dayOfYear = 11 := by
  have := (monthsBefore_bounds h).1
  omega

theorem InMarchYear.le {year : Int} {dayOfYear : Nat} (h : InMarchYear year dayOfYear) :
    dayOfYear ≤ 365 := by
  rcases h with h | ⟨h, -⟩ <;> omega

theorem ofMarch_valid {year : Int} {dayOfYear : Nat} (h : InMarchYear year dayOfYear) :
    (ofMarch year dayOfYear).Valid := by
  obtain ⟨-, hfrom, hto⟩ := monthsBefore_bounds h.le
  rcases monthsBefore_cases h.le with hm | hm | hm
  · have hlength := daysInMonth_march year hm
    rw [ofMarch_march year hm]
    refine ⟨?_, ?_, ?_, ?_⟩ <;> dsimp only <;> omega
  · rw [hm] at hfrom hto
    have hlength : daysInMonth (year + 1) 1 = 31 := rfl
    rw [ofMarch_january year hm]
    refine ⟨by simp, by simp, by simp, ?_⟩
    dsimp only
    omega
  · rw [hm] at hfrom hto
    rw [ofMarch_february year hm]
    refine ⟨by simp, by simp, by simp, ?_⟩
    rcases h with h | ⟨h, hleap⟩
    · have hlength := le_daysInMonth_february (year + 1)
      dsimp only
      omega
    · simp [daysInMonth, hleap, h]

/-- The days from the start of 1970 to the first of March of a year. -/
def daysToMarch (year : Int) : Int :=
  365 * year + year / 4 - year / 100 + year / 400 - epochOffset

theorem daysToMarch_eq_succ (year : Int) : daysToMarch year = daysToYear (year + 1) - 306 := by
  rw [daysToYear_eq, daysToMarch, epochOffset]
  omega

theorem daysToMarch_eq (year : Int) :
    daysToMarch year = daysToYear year + 59 + if IsLeap year then 1 else 0 := by
  rw [daysToMarch_eq_succ, daysToYear_succ, daysInYear_eq]
  by_cases hleap : IsLeap year
  · rw [if_pos hleap, if_pos hleap]
    omega
  · rw [if_neg hleap, if_neg hleap]
    omega

/-- The years of an era begin alike in all eras. -/
theorem daysToMarch_era (era : Int) {year : Nat} (h : year < 400) :
    daysToMarch (400 * era + year) = daysPerEra * era + daysBefore year - epochOffset := by
  have hspans : (400 * era + year) / 4 = 100 * era + year / 4 := by omega
  have hcenturies : (400 * era + year) / 100 = 4 * era + year / 100 := by omega
  have heras : (400 * era + year) / 400 = era := by omega
  rw [daysToMarch, hspans, hcenturies, heras]
  unfold daysPerEra daysBefore
  omega

theorem toDay_ofMarch {year : Int} {dayOfYear : Nat} (h : InMarchYear year dayOfYear) :
    (ofMarch year dayOfYear).toDay = daysToMarch year + dayOfYear := by
  obtain ⟨-, hfrom, -⟩ := monthsBefore_bounds h.le
  rcases monthsBefore_cases h.le with hm | hm | hm
  · rw [ofMarch_march year hm, toDay, daysToMonth_march year hm, daysToMarch_eq]
    push_cast
    omega
  · rw [hm] at hfrom
    have hbefore : daysToMonth (year + 1) 1 = 0 := rfl
    rw [ofMarch_january year hm, toDay, daysToMarch_eq_succ]
    dsimp only
    omega
  · rw [hm] at hfrom
    have hbefore : daysToMonth (year + 1) 2 = 31 := rfl
    rw [ofMarch_february year hm, toDay, daysToMarch_eq_succ]
    dsimp only
    omega

/-! ## Years of an era -/

/-- A day of an era is reached by going on whole centuries, whole spans of four years and whole
years; the last of each may be a day longer. -/
theorem exists_parts {dayOfEra : Nat} (h : dayOfEra < daysPerEra) :
    ∃ century span year rest, century < 4 ∧ span < 25 ∧ year < 4 ∧
      (rest < 365 ∨ rest = 365 ∧ year = 3 ∧ (span = 24 → century = 3)) ∧
      dayOfEra = 36524 * century + 1461 * span + 365 * year + rest := by
  unfold daysPerEra at h
  let century := min (dayOfEra / 36524) 3
  let span := (dayOfEra - 36524 * century) / 1461
  let year := min ((dayOfEra - 36524 * century - 1461 * span) / 365) 3
  refine ⟨century, span, year, dayOfEra - 36524 * century - 1461 * span - 365 * year, ?_⟩
  omega

theorem yearOfEra_parts {century span year rest : Nat} (hcentury : century < 4) (hspan : span < 25)
    (hyear : year < 4) (hrest : rest < 365 ∨ rest = 365 ∧ year = 3 ∧ (span = 24 → century = 3)) :
    yearOfEra (36524 * century + 1461 * span + 365 * year + rest)
      = 100 * century + 4 * span + year := by
  unfold yearOfEra
  generalize hday : 36524 * century + 1461 * span + 365 * year + rest = day
  have hcenturies : day / 36524 = century + day / 146096 := by
    have hlast : 1461 * span + 365 * year + rest < 36524 ∨ century = 3 ∧ day = 146096 := by omega
    rcases hlast with hlast | ⟨hthird, hlast⟩
    · omega
    · omega
  -- The leap days of the spans before, and that of the own span if it is over.
  have hspans : day / 1460
      = 25 * century + span + (24 * century + span + 365 * year + rest) / 1460 := by omega
  rw [hspans, hcenturies]
  generalize hextra : (24 * century + span + 365 * year + rest) / 1460 = extra
  have hbounds : extra ≤ rest ∧ rest - extra < 365 := by omega
  have hsum : day - (25 * century + span + extra) + (century + day / 146096) - day / 146096
      = 365 * (100 * century + 4 * span + year) + (rest - extra) := by omega
  rw [hsum]
  omega

/-- A day of an era lies in the year that is computed for it. -/
theorem yearOfEra_bounds {dayOfEra : Nat} (h : dayOfEra < daysPerEra) (era : Int) :
    yearOfEra dayOfEra < 400 ∧ daysBefore (yearOfEra dayOfEra) ≤ dayOfEra ∧
      InMarchYear (400 * era + yearOfEra dayOfEra)
        (dayOfEra - daysBefore (yearOfEra dayOfEra)) := by
  obtain ⟨century, span, year, rest, hcentury, hspan, hyear, hrest, rfl⟩ := exists_parts h
  rw [yearOfEra_parts hcentury hspan hyear hrest]
  have hbefore : daysBefore (100 * century + 4 * span + year)
      = 36524 * century + 1461 * span + 365 * year := by
    unfold daysBefore
    omega
  rw [hbefore]
  refine ⟨by omega, by omega, ?_⟩
  unfold InMarchYear IsLeap
  push_cast
  omega

/-! ## All days -/

theorem ofDay_eq (day : Int) :
    ∃ year dayOfYear, InMarchYear year dayOfYear ∧ day = daysToMarch year + dayOfYear ∧
      ofDay day = ofMarch year dayOfYear := by
  have hera : day + epochOffset = daysPerEra * (day + epochOffset).fdiv daysPerEra
      + (day + epochOffset).fmod daysPerEra := (Int.mul_fdiv_add_fmod _ _).symm
  have hpos := Int.fmod_nonneg_of_pos (day + epochOffset) (b := daysPerEra) (by decide)
  have hlt := Int.fmod_lt_of_pos (day + epochOffset) (b := daysPerEra) (by decide)
  generalize hdayOfEra : ((day + epochOffset).fmod daysPerEra).toNat = dayOfEra at *
  generalize hquot : (day + epochOffset).fdiv daysPerEra = era at *
  have hbound : dayOfEra < daysPerEra := by omega
  obtain ⟨hyear, hbefore, hin⟩ := yearOfEra_bounds hbound era
  refine ⟨400 * era + yearOfEra dayOfEra, dayOfEra - daysBefore (yearOfEra dayOfEra), hin, ?_, ?_⟩
  · rw [daysToMarch_era era hyear]
    omega
  · simp only [ofDay, hdayOfEra, hquot]
    rfl

theorem ofDay_valid (day : Int) : (ofDay day).Valid := by
  obtain ⟨year, dayOfYear, hin, -, heq⟩ := ofDay_eq day
  rw [heq]
  exact ofMarch_valid hin

theorem toDay_ofDay (day : Int) : (ofDay day).toDay = day := by
  obtain ⟨year, dayOfYear, hin, hday, heq⟩ := ofDay_eq day
  rw [heq, toDay_ofMarch hin, ← hday]

/-! ## Ranges of years -/

theorem le_ofDay_year_iff {year day : Int} :
    year ≤ (ofDay day).year ↔ daysToYear year ≤ day := by
  have hbounds := (ofDay_valid day).toDay_bounds
  rw [toDay_ofDay] at hbounds
  constructor
  · intro h
    exact (daysToYear_mono h).trans hbounds.1
  · intro h
    by_contra hlt
    have hmono := daysToYear_mono (Int.add_one_le_of_lt (Int.not_le.mp hlt))
    omega

theorem ofDay_year_le_iff {year day : Int} :
    (ofDay day).year ≤ year ↔ day < daysToYear (year + 1) := by
  have h := @le_ofDay_year_iff (year + 1) day
  omega

end AccessReport.CivilDate
