import Rollout.Time.Span

/-!
# Rollout.Proofs.Time.Calendar — days and dates

A day is counted from March on in eras of four hundred years.  The day of an era splits into centuries, runs of four
years, years and the day of a year, where only the last year of a run has a day more, and of the last runs of the
centuries only that of the fourth.

* `EraDay`: a day of an era that is split so.
* `daysOfDate_dateOfDays`: the date of a day is on that day.
* `dateOfDays_month`, `dateOfDays_day_le`: the date of a day is in the calendar.
-/

namespace Rollout.Instant

/-- A day of an era: its century, run of four years, year, and the day of the year. -/
structure EraDay where
  century : Nat
  run : Nat
  year : Nat
  day : Nat
  century_lt : century < 4
  run_lt : run < 25
  year_lt : year < 4
  day_lt : day < 366
  /-- Only a leap year has a day more. -/
  last : day = 365 → year = 3 ∧ (run < 24 ∨ century = 3)

namespace EraDay

/-- The days of the era before. -/
def count (e : EraDay) : Nat := 36524 * e.century + 1461 * e.run + 365 * e.year + e.day

/-- The year of the era. -/
def yearOfEra (e : EraDay) : Nat := 100 * e.century + 4 * e.run + e.year

/-- Every day of an era can be split. -/
theorem exists_count {n : Nat} (h : n < 146097) : ∃ e : EraDay, e.count = n := by
  obtain ⟨c, hc⟩ : ∃ c, c = min (n / 36524) 3 := ⟨_, rfl⟩
  obtain ⟨r, hr⟩ : ∃ r, r = n - 36524 * c := ⟨_, rfl⟩
  obtain ⟨y, hy⟩ : ∃ y, y = min (r % 1461 / 365) 3 := ⟨_, rfl⟩
  refine ⟨⟨c, r / 1461, y, r % 1461 - 365 * y, by omega, by omega, by omega, by omega, ?_⟩, ?_⟩
  · intro hlast
    omega
  · simp only [count]
    omega

theorem count_lt (e : EraDay) : e.count < 146097 := by
  have hc := e.century_lt
  have hr := e.run_lt
  have hy := e.year_lt
  have hd := e.day_lt
  have hl := e.last
  unfold count
  omega

/-- The year is found from the day with a correction for each kind of day more. -/
theorem yearOfEra_eq (e : EraDay) :
    (e.count - e.count / 1460 + e.count / 36524 - e.count / 146096) / 365 = e.yearOfEra := by
  obtain ⟨c, q, y, d, hc, hq, hy, hd, hlast⟩ := e
  simp only [count, yearOfEra]
  generalize hn : 36524 * c + 1461 * q + 365 * y + d = n
  -- On the very last day of an era both the years and the centuries are counted one too many.
  have h3 : n / 146096 = if c = 3 ∧ q = 24 ∧ y = 3 ∧ d = 365 then 1 else 0 := by split <;> omega
  have h2 : n / 36524 = c + (if c = 3 ∧ q = 24 ∧ y = 3 ∧ d = 365 then 1 else 0) := by split <;> omega
  have h1 : n / 1460 = 25 * c + q + (if 1460 ≤ 24 * c + q + 365 * y + d then 1 else 0) := by split <;> omega
  rw [h1, h2, h3]
  split <;> split <;> omega

/-- The days of the era before a year. -/
theorem daysBefore_eq (e : EraDay) :
    365 * e.yearOfEra + e.yearOfEra / 4 - e.yearOfEra / 100 + e.day = e.count := by
  obtain ⟨c, q, y, d, hc, hq, hy, hd, hlast⟩ := e
  simp only [count, yearOfEra]
  have h4 : (100 * c + 4 * q + y) / 4 = 25 * c + q := by omega
  have h100 : (100 * c + 4 * q + y) / 100 = c := by omega
  omega

end EraDay

/-! ## Months -/

/-- The month of a day of a year that is counted from March on. -/
def monthOfYearDay (d : Nat) : Nat :=
  let mp := (5 * d + 2) / 153
  if mp < 10 then mp + 3 else mp - 9

/-- The day of the month of a day of a year that is counted from March on. -/
def dayOfYearDay (d : Nat) : Nat :=
  let mp := (5 * d + 2) / 153
  d - (153 * mp + 2) / 5 + 1

theorem month_spec {d : Nat} (h : d < 366) : 1 ≤ monthOfYearDay d ∧ monthOfYearDay d ≤ 12 ∧
    1 ≤ dayOfYearDay d ∧ dayOfYearDay d ≤ 31 ∧
    (153 * ((monthOfYearDay d + 9) % 12) + 2) / 5 + dayOfYearDay d - 1 = d ∧
    (monthOfYearDay d = 2 → dayOfYearDay d ≤ 29 ∧ (dayOfYearDay d = 29 → d = 365)) ∧
    ([4, 6, 9, 11].contains (monthOfYearDay d) → dayOfYearDay d ≤ 30) ∧
    (monthOfYearDay d ≤ 2 ↔ 306 ≤ d) := by
  have hall : ∀ d : Fin 366, 1 ≤ monthOfYearDay d ∧ monthOfYearDay d ≤ 12 ∧
      1 ≤ dayOfYearDay d ∧ dayOfYearDay d ≤ 31 ∧
      (153 * ((monthOfYearDay d + 9) % 12) + 2) / 5 + dayOfYearDay d - 1 = d ∧
      (monthOfYearDay d = 2 → dayOfYearDay d ≤ 29 ∧ (dayOfYearDay d = 29 → d.val = 365)) ∧
      ([4, 6, 9, 11].contains (monthOfYearDay d) → dayOfYearDay d ≤ 30) ∧
      (monthOfYearDay d ≤ 2 ↔ 306 ≤ d.val) := by decide +kernel
  exact hall ⟨d, h⟩

/-! ## Dates -/

/-- A day by its era and the day of the era. -/
theorem exists_era (n : Int) : ∃ (era : Int) (e : EraDay), n + 719468 = era * 146097 + e.count := by
  obtain ⟨e, he⟩ := EraDay.exists_count (n := ((n + 719468) % 146097).toNat) (by omega)
  exact ⟨(n + 719468) / 146097, e, by omega⟩

theorem dateOfDays_eq {n era : Int} {e : EraDay} (h : n + 719468 = era * 146097 + e.count) :
    dateOfDays n = ((e.yearOfEra : Int) + era * 400 + (if monthOfYearDay e.day ≤ 2 then 1 else 0),
      monthOfYearDay e.day, dayOfYearDay e.day) := by
  have hlt := e.count_lt
  have hera : (n + 719468) / 146097 = era := by omega
  have hcount : (n + 719468 - era * 146097).toNat = e.count := by omega
  have hday : e.count - (365 * e.yearOfEra + e.yearOfEra / 4 - e.yearOfEra / 100) = e.day := by
    have := e.daysBefore_eq
    omega
  unfold dateOfDays
  simp only [hera, hcount, e.yearOfEra_eq, hday]
  rfl

/-- The date of a day is on that day. -/
theorem daysOfDate_dateOfDays (n : Int) :
    daysOfDate (dateOfDays n).1 (dateOfDays n).2.1 (dateOfDays n).2.2 = n := by
  obtain ⟨era, e, h⟩ := exists_era n
  obtain ⟨-, -, -, -, hday, -, -, -⟩ := month_spec e.day_lt
  have hbefore := e.daysBefore_eq
  have hlt : e.yearOfEra < 400 := by
    have hc := e.century_lt
    have hr := e.run_lt
    have hy := e.year_lt
    unfold EraDay.yearOfEra
    omega
  rw [dateOfDays_eq h]
  unfold daysOfDate
  dsimp only
  generalize monthOfYearDay e.day = month at hday ⊢
  generalize dayOfYearDay e.day = day at hday ⊢
  rw [hday]
  -- Counted from March on, the year is that of the era again.
  have hyear : (if month ≤ 2 then (e.yearOfEra : Int) + era * 400 + (if month ≤ 2 then 1 else 0) - 1
      else (e.yearOfEra : Int) + era * 400 + (if month ≤ 2 then 1 else 0)) = e.yearOfEra + era * 400 := by
    split <;> omega
  rw [hyear]
  omega

theorem dateOfDays_month (n : Int) : 1 ≤ (dateOfDays n).2.1 ∧ (dateOfDays n).2.1 ≤ 12 := by
  obtain ⟨era, e, h⟩ := exists_era n
  rw [dateOfDays_eq h]
  exact ⟨(month_spec e.day_lt).1, (month_spec e.day_lt).2.1⟩

theorem dateOfDays_day_pos (n : Int) : 1 ≤ (dateOfDays n).2.2 := by
  obtain ⟨era, e, h⟩ := exists_era n
  rw [dateOfDays_eq h]
  exact (month_spec e.day_lt).2.2.1

/-- A year is a leap year where it ends with the day more of a run of four years. -/
theorem isLeapYear_of_last {e : EraDay} (hlast : e.day = 365) (era : Int) :
    isLeapYear (e.yearOfEra + era * 400 + 1) = true := by
  obtain ⟨hy, hr⟩ := e.last hlast
  have hc := e.century_lt
  have hq := e.run_lt
  unfold isLeapYear EraDay.yearOfEra
  simp only [Bool.and_eq_true, Bool.or_eq_true, decide_eq_true_eq]
  omega

theorem dateOfDays_day_le (n : Int) :
    (dateOfDays n).2.2 ≤ daysInMonth (dateOfDays n).1 (dateOfDays n).2.1 := by
  obtain ⟨era, e, h⟩ := exists_era n
  obtain ⟨-, -, -, hlong, -, hfeb, hshort, -⟩ := month_spec e.day_lt
  rw [dateOfDays_eq h]
  dsimp only
  unfold daysInMonth
  split
  · rename_i hmonth
    obtain ⟨h29, hlast⟩ := hfeb hmonth
    have hle : monthOfYearDay e.day ≤ 2 := by omega
    rw [if_pos hle]
    by_cases h29' : dayOfYearDay e.day = 29
    · rw [isLeapYear_of_last (hlast h29'), h29']
      decide
    · split <;> omega
  · split
    · rename_i hshort'
      exact hshort hshort'
    · exact hlong

/-! ## The bounds of the calendar -/

/-- The day is one of the calendar, and the time is written without a leap second. -/
structure InCalendar (t : Instant) : Prop where
  first : daysOfDate minYear 1 1 ≤ t.day
  last : t.day ≤ daysOfDate maxYear 12 31
  second : t.second < 86400
  nano : t.nano < 1000000000

theorem dateOfDays_year {t : Instant} (h : t.InCalendar) :
    minYear ≤ (dateOfDays t.day).1 ∧ (dateOfDays t.day).1 ≤ maxYear := by
  obtain ⟨era, e, he⟩ := exists_era t.day
  obtain ⟨-, -, -, -, -, -, -, hmonth⟩ := month_spec e.day_lt
  have hfirst := h.first
  have hlast := h.last
  have hc := e.century_lt
  have hr := e.run_lt
  have hy := e.year_lt
  have hd := e.day_lt
  have hd' := e.last
  rw [dateOfDays_eq he]
  have hmin : daysOfDate minYear 1 1 = -96465292 := by decide +kernel
  have hmax : daysOfDate maxYear 12 31 = 95026236 := by decide +kernel
  rw [hmin] at hfirst
  rw [hmax] at hlast
  unfold EraDay.count at he
  unfold minYear maxYear EraDay.yearOfEra
  dsimp only
  constructor
  · split <;> omega
  · -- The last year stands in the second century of its era, in the eleventh run of four years.
    have hera : era ≤ 655 := by omega
    by_cases hbefore : era ≤ 654
    · split <;> omega
    · have hcentury : e.century ≤ 1 := by omega
      have hrun : e.century = 1 → e.run ≤ 10 := by omega
      have hyear : e.century = 1 → e.run = 10 → e.year < 2 ∨ e.year = 2 ∧ e.day < 306 := by omega
      split <;> omega

end Rollout.Instant
