import AccessReport.Proofs.Decoration.Calendar
import AccessReport.Proofs.Numeric.Numerals
/-!
# Times keep their instant

A moment is a date with a time of day. It has an instant, its number of milliseconds since the start
of 1970, and it is spelled in one form only, by numerals of which only the year may be longer than
in others. So a text that spells a moment can be read back, and where years have four digits texts
are compared in the order in which moments follow each other.

* `Moment.ofMillis_valid`, `Moment.instant_ofMillis`, `Moment.instant_inj`: moments and instants are
  the same.
* `Moment.Spells.unique`, `Moment.Spells.lt_iff`: what texts tell of moments.
* `Moment.covers_iff`: the instants of years.
* `Timestamp.normalize_keeps_instant`: what becomes of a time in milliseconds.
-/
namespace AccessReport

open Numeric

/-! ## Moments -/

/-- A date and a time of day, in UTC. -/
structure Moment where
  date : CivilDate
  hour : Nat
  minute : Nat
  second : Nat
  milli : Nat
deriving DecidableEq, Repr

namespace Moment

structure Valid (moment : Moment) : Prop where
  date : moment.date.Valid
  hour : moment.hour < 24
  minute : moment.minute < 60
  second : moment.second < 60
  milli : moment.milli < 1000

/-- The milliseconds since midnight. -/
def millisOfDay (moment : Moment) : Nat :=
  ((moment.hour * 60 + moment.minute) * 60 + moment.second) * 1000 + moment.milli

/-- The milliseconds since the start of 1970. -/
def instant (moment : Moment) : Int :=
  moment.date.toDay * 24 * 60 * 60 * 1000 + moment.millisOfDay

/-- The moment of an instant, read off day by day. -/
def ofMillis (millis : Int) : Moment :=
  let ofDay := (millis.fmod Timestamp.millisPerDay).toNat
  { date := .ofDay (millis.fdiv Timestamp.millisPerDay)
    hour := ofDay / 3600000
    minute := ofDay / 60000 % 60
    second := ofDay / 1000 % 60
    milli := ofDay % 1000 }

theorem millisOfDay_lt {moment : Moment} (h : moment.Valid) : moment.millisOfDay < 86400000 := by
  obtain ⟨-, hhour, hminute, hsecond, hmilli⟩ := h
  unfold millisOfDay
  omega

/-- One moment comes before another. -/
def Earlier (first second : Moment) : Prop :=
  first.date.Earlier second.date ∨
    first.date = second.date ∧ first.millisOfDay < second.millisOfDay

theorem instant_lt_iff {first second : Moment} (hfirst : first.Valid) (hsecond : second.Valid) :
    first.instant < second.instant ↔ first.Earlier second := by
  have hlt := millisOfDay_lt hfirst
  have hlt' := millisOfDay_lt hsecond
  have hday : first.date.toDay = second.date.toDay ↔ first.date = second.date :=
    ⟨CivilDate.toDay_inj hfirst.date hsecond.date, congrArg _⟩
  rw [Earlier, ← CivilDate.toDay_lt_toDay_iff hfirst.date hsecond.date, ← hday, instant, instant]
  omega

/-- Times of a day are compared from the hour down to the milliseconds. -/
theorem millisOfDay_lt_iff {first second : Moment} (hfirst : first.Valid)
    (hsecond : second.Valid) : first.millisOfDay < second.millisOfDay ↔
      first.hour < second.hour ∨ first.hour = second.hour ∧
        (first.minute < second.minute ∨ first.minute = second.minute ∧
          (first.second < second.second ∨ first.second = second.second ∧
            first.milli < second.milli)) := by
  obtain ⟨-, hh, hm, hs, hms⟩ := hfirst
  obtain ⟨-, hh', hm', hs', hms'⟩ := hsecond
  unfold millisOfDay
  omega

theorem millis_eq (millis : Int) :
    millis = 86400000 * millis.fdiv Timestamp.millisPerDay
      + (millis.fmod Timestamp.millisPerDay).toNat ∧
      (millis.fmod Timestamp.millisPerDay).toNat < 86400000 := by
  have hsum := Int.mul_fdiv_add_fmod millis Timestamp.millisPerDay
  have hpos := Int.fmod_nonneg_of_pos millis (b := Timestamp.millisPerDay) (by decide)
  have hlt := Int.fmod_lt_of_pos millis (b := Timestamp.millisPerDay) (by decide)
  have hday : (Timestamp.millisPerDay : Int) = 86400000 := rfl
  rw [hday] at hsum hpos hlt ⊢
  omega

theorem ofMillis_valid (millis : Int) : (ofMillis millis).Valid := by
  obtain ⟨-, hlt⟩ := millis_eq millis
  refine ⟨CivilDate.ofDay_valid _, ?_, ?_, ?_, ?_⟩ <;> simp only [ofMillis] <;> omega

theorem instant_ofMillis (millis : Int) : (ofMillis millis).instant = millis := by
  obtain ⟨hsum, -⟩ := millis_eq millis
  simp only [instant, millisOfDay, ofMillis, CivilDate.toDay_ofDay]
  omega

/-- Moments of the same instant are the same. -/
theorem instant_inj {first second : Moment} (hfirst : first.Valid) (hsecond : second.Valid)
    (h : first.instant = second.instant) : first = second := by
  have hlt := millisOfDay_lt hfirst
  have hlt' := millisOfDay_lt hsecond
  unfold instant at h
  have hdate : first.date = second.date :=
    CivilDate.toDay_inj hfirst.date hsecond.date (by omega)
  have hmillis : first.millisOfDay = second.millisOfDay := by
    rw [hdate] at h
    omega
  obtain ⟨date, hour, minute, sec, milli⟩ := first
  obtain ⟨date', hour', minute', sec', milli'⟩ := second
  obtain ⟨-, hh, hm, hs, hms⟩ := hfirst
  obtain ⟨-, hh', hm', hs', hms'⟩ := hsecond
  simp only [millisOfDay] at hmillis hdate hh hm hs hms hh' hm' hs' hms'
  rw [Moment.mk.injEq]
  refine ⟨hdate, ?_⟩
  omega

/-! ## Texts -/

/-- A year has four digits; outside 0 to 9999 it has a sign, and as many more digits as it needs. -/
inductive SpellsYear : Int → List Char → Prop where
  | plain {year : Int} {cs : List Char} (hfrom : 0 ≤ year) (hto : year ≤ 9999)
    (hcs : Numeral 4 year.toNat cs) : SpellsYear year cs
  | past {year : Int} {cs : List Char} (h : year < 0)
    (hcs : Numeral (max 4 year.natAbs.repr.length) year.natAbs cs) : SpellsYear year ('-' :: cs)
  | future {year : Int} {cs : List Char} (h : 9999 < year)
    (hcs : Numeral (max 4 year.natAbs.repr.length) year.natAbs cs) : SpellsYear year ('+' :: cs)

/-- The text of a moment has the form `year-month-dayThh:mm:ss.mmmZ`. -/
inductive Spells (moment : Moment) : List Char → Prop where
  | intro {year month day hour minute second milli : List Char}
    (hyear : SpellsYear moment.date.year year) (hmonth : Numeral 2 moment.date.month month)
    (hday : Numeral 2 moment.date.day day) (hhour : Numeral 2 moment.hour hour)
    (hminute : Numeral 2 moment.minute minute) (hsecond : Numeral 2 moment.second second)
    (hmilli : Numeral 3 moment.milli milli) :
    Spells moment (year ++ '-' :: (month ++ '-' :: (day ++ 'T' :: (hour ++ ':' :: (minute
      ++ ':' :: (second ++ '.' :: (milli ++ ['Z'])))))))

theorem SpellsYear.unique {first second : Int} {cs : List Char} (hfirst : SpellsYear first cs)
    (hsecond : SpellsYear second cs) : first = second := by
  have hsign {c : Char} {cs : List Char} {n : Nat} (hcs : Numeral 4 n (c :: cs)) :
      c.isDigit = true := hcs.isDigit c List.mem_cons_self
  cases hfirst with
  | plain hfrom hto hcs =>
    cases hsecond with
    | plain hfrom' hto' hcs' =>
      have := hcs.unique hcs'
      omega
    | past h hcs' => exact absurd (hsign hcs) (by decide)
    | future h hcs' => exact absurd (hsign hcs) (by decide)
  | past h hcs =>
    cases hsecond with
    | plain hfrom hto hcs' => exact absurd (hsign hcs') (by decide)
    | past h' hcs' =>
      have := hcs.unique hcs'
      omega
  | future h hcs =>
    cases hsecond with
    | plain hfrom hto hcs' => exact absurd (hsign hcs') (by decide)
    | future h' hcs' =>
      have := hcs.unique hcs'
      omega

/-- A text spells one moment at most. -/
theorem Spells.unique {first second : Moment} {cs : List Char} (hfirst : first.Spells cs)
    (hsecond : second.Spells cs) : first = second := by
  obtain ⟨hy, hmo, hd, hh, hmi, hs, hms⟩ := hfirst
  rename_i year month day hour minute sec milli
  generalize htext : year ++ '-' :: (month ++ '-' :: (day ++ 'T' :: (hour ++ ':' :: (minute
      ++ ':' :: (sec ++ '.' :: (milli ++ ['Z'])))))) = cs at hsecond
  obtain ⟨hy', hmo', hd', hh', hmi', hs', hms'⟩ := hsecond
  -- Only the year may be longer, so that what is behind it begins at the same place.
  obtain ⟨rfl, hrest⟩ := List.append_inj' htext (by
    simp [hmo.length, hd.length, hh.length, hmi.length, hs.length, hms.length,
      hmo'.length, hd'.length, hh'.length, hmi'.length, hs'.length, hms'.length])
  obtain ⟨hmonth, hrest⟩ := hmo.append_inj hmo' (List.cons.inj hrest).2
  obtain ⟨hday, hrest⟩ := hd.append_inj hd' (List.cons.inj hrest).2
  obtain ⟨hhour, hrest⟩ := hh.append_inj hh' (List.cons.inj hrest).2
  obtain ⟨hminute, hrest⟩ := hmi.append_inj hmi' (List.cons.inj hrest).2
  obtain ⟨hsec, hrest⟩ := hs.append_inj hs' (List.cons.inj hrest).2
  obtain ⟨hmilli, -⟩ := hms.append_inj hms' (List.cons.inj hrest).2
  obtain ⟨⟨_, _, _⟩, _, _, _, _⟩ := first
  obtain ⟨⟨_, _, _⟩, _, _, _, _⟩ := second
  simp only [Moment.mk.injEq, CivilDate.mk.injEq]
  exact ⟨⟨hy.unique hy', hmonth, hday⟩, hhour, hminute, hsec, hmilli⟩

theorem SpellsYear.numeral {year : Int} {cs : List Char} (h : SpellsYear year cs)
    (hfrom : 0 ≤ year) (hto : year ≤ 9999) : Numeral 4 year.toNat cs := by
  cases h with
  | plain _ _ hcs => exact hcs
  | past h => omega
  | future h => omega

/-- Where years have four digits, texts are compared from the year down to the milliseconds. -/
theorem Spells.lt_iff {first second : Moment} {cs ds : List Char} (hfirst : first.Spells cs)
    (hsecond : second.Spells ds) (hvalid : first.Valid) (hvalid' : second.Valid)
    (hin : 0 ≤ first.date.year ∧ first.date.year ≤ 9999)
    (hin' : 0 ≤ second.date.year ∧ second.date.year ≤ 9999) :
    cs < ds ↔ first.Earlier second := by
  obtain ⟨hy, hmo, hd, hh, hmi, hs, hms⟩ := hfirst
  obtain ⟨hy', hmo', hd', hh', hmi', hs', hms'⟩ := hsecond
  have hyear := hy.numeral hin.1 hin.2
  have hyear' := hy'.numeral hin'.1 hin'.2
  rw [hyear.append_lt_append_iff hyear', List.cons_lt_cons_self,
    hmo.append_lt_append_iff hmo', List.cons_lt_cons_self,
    hd.append_lt_append_iff hd', List.cons_lt_cons_self,
    hh.append_lt_append_iff hh', List.cons_lt_cons_self,
    hmi.append_lt_append_iff hmi', List.cons_lt_cons_self,
    hs.append_lt_append_iff hs', List.cons_lt_cons_self, hms.append_lt_append_iff hms',
    List.cons_lt_cons_self, Earlier, millisOfDay_lt_iff hvalid hvalid', CivilDate.Earlier]
  obtain ⟨⟨_, _, _⟩, _, _, _, _⟩ := first
  obtain ⟨⟨_, _, _⟩, _, _, _, _⟩ := second
  simp only [CivilDate.mk.injEq, List.not_lt_nil, and_false, or_false] at *
  omega

/-! ## Ranges of years -/

/-- The instant at which a year starts. -/
def startOf (year : Int) : Int := instant ⟨⟨year, 1, 1⟩, 0, 0, 0, 0⟩

/-- The instants from the start of one year to the end of another. -/
def Covers (firstYear lastYear millis : Int) : Prop :=
  startOf firstYear ≤ millis ∧ millis < startOf (lastYear + 1)

theorem startOf_eq (year : Int) : startOf year = 86400000 * CivilDate.daysToYear year := by
  have hbefore : CivilDate.daysToMonth year 1 = 0 := rfl
  rw [startOf, instant, CivilDate.toDay, millisOfDay]
  dsimp only
  omega

theorem covers_iff {firstYear lastYear millis : Int} :
    Covers firstYear lastYear millis ↔
      firstYear ≤ (ofMillis millis).date.year ∧ (ofMillis millis).date.year ≤ lastYear := by
  obtain ⟨hsum, hlt⟩ := millis_eq millis
  have hdate : (ofMillis millis).date = .ofDay (millis.fdiv Timestamp.millisPerDay) := rfl
  rw [hdate, CivilDate.le_ofDay_year_iff, CivilDate.ofDay_year_le_iff, Covers, startOf_eq,
    startOf_eq]
  omega

end Moment

/-! ## Times as texts -/

namespace Timestamp

open Moment

theorem spellsYear_yearText (year : Int) : SpellsYear year (CivilDate.yearText year) := by
  unfold CivilDate.yearText
  split
  · rename_i h
    exact .plain h.1 h.2 (.padded (by decide) (by omega))
  · rename_i h
    split
    · rename_i hneg
      exact .past hneg (.of_padded 4 _)
    · rename_i hneg
      exact .future (by omega) (.of_padded 4 _)

/-- A moment is spelled as it is written. -/
theorem spells_text (millis : Int) :
    (Moment.ofMillis millis).Spells ((Moment.ofMillis millis).date.text
      ++ 'T' :: timeText (millis.fmod millisPerDay).toNat ++ ['Z']) := by
  obtain ⟨hdate, hhour, hminute, hsecond, hmilli⟩ := ofMillis_valid millis
  have hday := hdate.day_le.trans (CivilDate.daysInMonth_le _ _)
  have hmonth := hdate.month_le
  have h : (Moment.ofMillis millis).Spells _ := .intro (spellsYear_yearText _)
    (.padded (by decide) (by omega)) (.padded (by decide) (by omega))
    (.padded (by decide) (by omega)) (.padded (by decide) (by omega))
    (.padded (by decide) (by omega)) (.padded (by decide) (by omega))
  simpa [CivilDate.text, timeText, Moment.ofMillis] using h

theorem ofMillis_covered {millis : Int}
    (h : Covers CivilDate.firstYear CivilDate.lastYear millis) :
    (Moment.ofMillis millis).Spells (Timestamp.ofMillis millis).toList := by
  have hyears := covers_iff.mp h
  have hspells := spells_text millis
  simp only [Moment.ofMillis] at hyears
  unfold Timestamp.ofMillis
  rw [if_pos hyears, String.toList_ofList]
  exact hspells

/-- Outside the years of the calendar a time stays a number. -/
theorem ofMillis_uncovered {millis : Int}
    (h : ¬Covers CivilDate.firstYear CivilDate.lastYear millis) :
    Timestamp.ofMillis millis = String.ofList (signed millis) := by
  rw [covers_iff] at h
  simp only [Moment.ofMillis] at h
  unfold Timestamp.ofMillis
  rw [if_neg h]

/-- The years of the calendar, in milliseconds. -/
theorem covers_calendar_iff {millis : Int} :
    Covers CivilDate.firstYear CivilDate.lastYear millis ↔
      -8334601228800000 ≤ millis ∧ millis ≤ 8210266876799999 := by
  rw [Covers, startOf_eq, startOf_eq, CivilDate.daysToYear_eq, CivilDate.daysToYear_eq,
    CivilDate.firstYear, CivilDate.lastYear]
  omega

theorem covers_calendar {millis : Int} (h : Covers 0 9999 millis) :
    Covers CivilDate.firstYear CivilDate.lastYear millis := by
  rw [covers_iff] at h ⊢
  unfold CivilDate.firstYear CivilDate.lastYear
  omega

/-- The text of a time tells which time it is. -/
theorem ofMillis_inj {first second : Int}
    (h : Timestamp.ofMillis first = Timestamp.ofMillis second) : first = second := by
  -- A moment is spelled with a letter, a number is not.
  have hletter {cs : List Char} {moment : Moment} (hspells : moment.Spells cs) : 'Z' ∈ cs := by
    cases hspells
    simp
  have hnumber {n : Int} : 'Z' ∉ signed n := fun hmem => by
    rcases mem_signed hmem with hz | hz
    · exact absurd hz (by decide)
    · exact absurd hz (by decide)
  have hapart {covered other : Int}
      (hin : Covers CivilDate.firstYear CivilDate.lastYear covered)
      (hout : ¬Covers CivilDate.firstYear CivilDate.lastYear other) :
      Timestamp.ofMillis covered ≠ Timestamp.ofMillis other := fun he => by
    have hmem := hletter (ofMillis_covered hin)
    rw [he, ofMillis_uncovered hout, String.toList_ofList] at hmem
    exact hnumber hmem
  by_cases hfirst : Covers CivilDate.firstYear CivilDate.lastYear first
  · by_cases hsecond : Covers CivilDate.firstYear CivilDate.lastYear second
    · have hspells := ofMillis_covered hfirst
      rw [h] at hspells
      have hmoment := hspells.unique (ofMillis_covered hsecond)
      rw [← instant_ofMillis first, hmoment, instant_ofMillis]
    · exact absurd h (hapart hfirst hsecond)
  · by_cases hsecond : Covers CivilDate.firstYear CivilDate.lastYear second
    · exact absurd h.symm (hapart hsecond hfirst)
    · rw [ofMillis_uncovered hfirst, ofMillis_uncovered hsecond, String.ofList_inj] at h
      exact signed_inj h

/-- In years with four digits, later times have later texts. -/
theorem ofMillis_lt_iff {first second : Int} (hfirst : Covers 0 9999 first)
    (hsecond : Covers 0 9999 second) :
    Timestamp.ofMillis first < Timestamp.ofMillis second ↔ first < second := by
  have hspells := ofMillis_covered (covers_calendar hfirst)
  have hspells' := ofMillis_covered (covers_calendar hsecond)
  rw [String.lt_iff, hspells.lt_iff hspells' (ofMillis_valid _) (ofMillis_valid _)
    (covers_iff.mp hfirst) (covers_iff.mp hsecond),
    ← instant_lt_iff (ofMillis_valid _) (ofMillis_valid _), instant_ofMillis, instant_ofMillis]

/-- A time in milliseconds that the calendar covers is written as `year-month-dayThh:mm:ss.mmmZ`,
and the text denotes the moment of exactly this instant; outside the calendar it stays a decimal
number. So no two times have the same text, and in the years from 0000 to 9999 texts are ordered as
the times are. -/
theorem normalize_keeps_instant :
    (∀ millis, Covers CivilDate.firstYear CivilDate.lastYear millis →
      (∃ moment : Moment, moment.Valid ∧
        moment.Spells (normalize (.epochMillis millis)).toList) ∧
      ∀ moment : Moment, moment.Valid →
        (moment.Spells (normalize (.epochMillis millis)).toList ↔ moment.instant = millis)) ∧
    (∀ millis, ¬Covers CivilDate.firstYear CivilDate.lastYear millis →
      normalize (.epochMillis millis) = toString millis) ∧
    (∀ first second, normalize (.epochMillis first) = normalize (.epochMillis second) →
      first = second) ∧
    ∀ first second, Covers 0 9999 first → Covers 0 9999 second →
      (normalize (.epochMillis first) < normalize (.epochMillis second) ↔ first < second) := by
  refine ⟨fun millis h => ?_, fun millis h => ?_, fun first second => ofMillis_inj,
    fun first second => ofMillis_lt_iff⟩
  · have hspells := ofMillis_covered h
    refine ⟨⟨_, ofMillis_valid millis, hspells⟩, fun moment hvalid => ⟨fun hother => ?_,
      fun hinstant => ?_⟩⟩
    · rw [hother.unique hspells, instant_ofMillis]
    · rw [← instant_inj (ofMillis_valid millis) hvalid ((instant_ofMillis _).trans hinstant.symm)]
      exact hspells
  · rw [normalize, ofMillis_uncovered h, ofList_signed]

/-- The last millisecond of a leap day, the one before 1970, and a time beyond the calendar. -/
theorem normalize_leap_day :
    (⟨⟨2000, 2, 29⟩, 23, 59, 59, 999⟩ : Moment).Spells
        (normalize (.epochMillis 951868799999)).toList ∧
      normalize (.epochMillis 9007199254740993) = "9007199254740993" ∧
      normalize (.epochMillis (-1)) < normalize (.epochMillis 951868799999) := by
  obtain ⟨hinstant, hnumber, -, horder⟩ := normalize_keeps_instant
  have hleap : (⟨⟨2000, 2, 29⟩, 23, 59, 59, 999⟩ : Moment).Valid :=
    ⟨⟨by decide, by decide, by decide, by decide⟩, by decide, by decide, by decide, by decide⟩
  have hin : Covers 0 9999 951868799999 := covers_iff.mpr (by decide)
  have hbefore : Covers 0 9999 (-1) := covers_iff.mpr (by decide)
  refine ⟨((hinstant _ (covers_calendar hin)).2 _ hleap).mpr ?_, hnumber _ ?_,
    (horder _ _ hbefore hin).mpr (by decide)⟩
  · rw [instant, CivilDate.toDay, CivilDate.daysToYear_eq]
    decide
  · rw [covers_calendar_iff]
    decide

end Timestamp
end AccessReport
