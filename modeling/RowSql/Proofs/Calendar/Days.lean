import Mathlib.Tactic.IntervalCases
import RowSql.Calendar.Date
/-!
# Days — dates and their numbers

Every number of days is that of exactly one date of the calendar (`eq_ofDays_iff`): the days of a year from
March on and the days of its months are found again from their number.  The first days of the years are in the
order of the years (`firstDay_mono`), so that the dates whose years are in range are those of a range of numbers
(`Occurs.inRange_iff`, `ofDays?_eq_none_iff`).
-/
namespace RowSql
namespace Calendar

theorem isLeap_iff (year : Int) : isLeap year = true ↔ year % 4 = 0 ∧ (year % 100 ≠ 0 ∨ year % 400 = 0) := by
  simp [isLeap]

theorem isLeap_congr {y z : Int} (h : y % 400 = z % 400) : isLeap y = isLeap z := by
  rw [Bool.eq_iff_iff, isLeap_iff, isLeap_iff]
  omega

/-! ## Years of an era

An era is four hundred years, and its years are counted from March on. -/

/-- The number of days of an era before one of its years. -/
def daysBefore (y : Int) : Int := y * 365 + y / 4 - y / 100

/-- The number of days of a year from March on: the last one may be the leap day of the next year. -/
def yearLength (y : Int) : Int := if isLeap (y + 1) then 366 else 365

/-- The year of a day of an era. -/
def yearOfDay (n : Int) : Int := (n - n / 1460 + n / 36524 - n / 146096) / 365

theorem yearLength_cases (y : Int) :
    yearLength y = 366 ∧ y % 4 = 3 ∧ (y % 100 ≠ 99 ∨ y % 400 = 399) ∨
    yearLength y = 365 ∧ ¬ (y % 4 = 3 ∧ (y % 100 ≠ 99 ∨ y % 400 = 399)) := by
  unfold yearLength
  split
  · rename_i h
    rw [isLeap_iff] at h
    omega
  · rename_i h
    rw [isLeap_iff] at h
    omega

theorem yearLength_emod (y : Int) : yearLength (y % 400) = yearLength y := by
  have hleap : isLeap (y % 400 + 1) = isLeap (y + 1) := isLeap_congr (by omega)
  rw [yearLength, yearLength, hleap]

/-- The days before a year, counted in centuries and in spans of four years. -/
theorem daysBefore_add {c q r : Int} (hq : 0 ≤ q ∧ q < 25) (hr : 0 ≤ r ∧ r < 4) :
    daysBefore (100 * c + 4 * q + r) = 36524 * c + 1461 * q + 365 * r := by
  unfold daysBefore
  omega

theorem exists_centuries {y : Int} (hy : 0 ≤ y ∧ y < 400) :
    ∃ c q r : Int, (0 ≤ c ∧ c < 4) ∧ (0 ≤ q ∧ q < 25) ∧ (0 ≤ r ∧ r < 4) ∧ y = 100 * c + 4 * q + r :=
  ⟨y / 100, y % 100 / 4, y % 4, by omega, by omega, by omega, by omega⟩

theorem yearOfDay_add {y n : Int} (hy : 0 ≤ y ∧ y < 400) (hn : 0 ≤ n ∧ n < yearLength y) :
    yearOfDay (daysBefore y + n) = y ∧ 0 ≤ daysBefore y + n ∧ daysBefore y + n < 146097 := by
  have hlast : n ≤ 364 ∨ n = 365 ∧ y % 4 = 3 ∧ (y % 100 ≠ 99 ∨ y % 400 = 399) := by
    rcases yearLength_cases y with h | h <;> omega
  obtain ⟨c, q, r, hc, hq, hr, rfl⟩ := exists_centuries hy
  replace hlast : n ≤ 364 ∨ n = 365 ∧ r = 3 ∧ (q < 24 ∨ c = 3) := by omega
  rw [daysBefore_add hq hr]
  clear hy
  unfold yearOfDay
  generalize hm : 36524 * c + 1461 * q + 365 * r + n = m
  refine ⟨?_, by omega, by omega⟩
  have hcentury : m / 146096 = 0 ∧ m / 36524 = c ∨ m = 146096 ∧ c = 3 ∧ q = 24 ∧ r = 3 := by omega
  rcases hcentury with ⟨hend, hcentury⟩ | ⟨rfl, rfl, rfl, rfl⟩
  · -- four years have one day more than 1460, so that the quotient may be one ahead
    have hspan : m / 1460 = 25 * c + q ∧ 24 * c + q + 365 * r + n < 1460 ∨
        m / 1460 = 25 * c + q + 1 ∧ 1460 ≤ 24 * c + q + 365 * r + n := by omega
    rw [hend, hcentury]
    rcases hspan with ⟨hspan, hless⟩ | ⟨hspan, hmore⟩
    · rw [hspan]
      omega
    · rw [hspan]
      omega
  · rfl

theorem exists_daysBefore {m : Int} (hm : 0 ≤ m ∧ m < 146097) :
    ∃ y n : Int, (0 ≤ y ∧ y < 400) ∧ (0 ≤ n ∧ n < yearLength y) ∧ m = daysBefore y + n := by
  -- the last day of an era is beyond four centuries of equal length, and so on for spans and years
  obtain ⟨c, hc, hcentury⟩ : ∃ c : Int, (0 ≤ c ∧ c < 4) ∧
      (0 ≤ m - 36524 * c ∧ (m - 36524 * c < 36524 ∨ c = 3 ∧ m = 146096)) :=
    ⟨min (m / 36524) 3, by omega, by omega⟩
  obtain ⟨q, hq, hspan⟩ : ∃ q : Int, (0 ≤ q ∧ q < 25) ∧
      (0 ≤ m - 36524 * c - 1461 * q ∧ m - 36524 * c - 1461 * q < 1461) :=
    ⟨(m - 36524 * c) / 1461, by omega, by omega⟩
  obtain ⟨r, hr, hyear⟩ : ∃ r : Int, (0 ≤ r ∧ r < 4) ∧ (0 ≤ m - 36524 * c - 1461 * q - 365 * r ∧
      (m - 36524 * c - 1461 * q - 365 * r < 365 ∨ r = 3 ∧ m - 36524 * c - 1461 * q = 1460)) :=
    ⟨min ((m - 36524 * c - 1461 * q) / 365) 3, by omega, by omega⟩
  have hbefore := daysBefore_add (c := c) hq hr
  have hlength := yearLength_cases (100 * c + 4 * q + r)
  exact ⟨100 * c + 4 * q + r, m - 36524 * c - 1461 * q - 365 * r, by omega, by omega, by omega⟩

/-! ## Months of a year -/

/-- The number of days of a year before one of its months, counted from March on. -/
def daysBeforeMonth (m : Int) : Int := (153 * m + 2) / 5

/-- A month goes up to the next one, and the last month up to the end of the year. -/
theorem monthLength_cases (year : Int) {month : Nat} (h : 1 ≤ month ∧ month ≤ 12) :
    month ≠ 2 ∧ (monthLength year month : Int) =
      daysBeforeMonth ((month + 9 : Int) % 12 + 1) - daysBeforeMonth ((month + 9 : Int) % 12) ∨
    month = 2 ∧ (monthLength year month : Int) = yearLength (year - 1) - 337 := by
  obtain ⟨hlow, hhigh⟩ := h
  by_cases hmonth : month = 2
  · subst hmonth
    refine .inr ⟨rfl, ?_⟩
    have hlength : monthLength year 2 = if isLeap year then 29 else 28 := rfl
    rw [hlength, yearLength, Int.sub_add_cancel]
    split <;> rfl
  · refine .inl ⟨hmonth, ?_⟩
    interval_cases month <;> first | rfl | exact absurd rfl hmonth

namespace Date

/-- **The calendar has the date**, whatever its year is. -/
structure Occurs (d : Date) : Prop where
  month : 1 ≤ d.month ∧ d.month ≤ 12
  day : 1 ≤ d.day ∧ d.day ≤ monthLength d.year d.month

/-- The year of a date is in range. -/
def InRange (d : Date) : Prop := firstYear ≤ d.year ∧ d.year ≤ lastYear

/-- **A date of the calendar** whose year is in range. -/
def Listed (d : Date) : Prop := d.Occurs ∧ d.InRange

theorem make?_eq_some_iff {year : Int} {month day : Nat} {d : Date} :
    make? year month day = some d ↔ d = ⟨year, month, day⟩ ∧ d.Listed := by
  unfold make?
  split
  · rename_i h
    obtain ⟨hfirst, hlast, hmonth, hmonth', hday, hday'⟩ := h
    rw [Option.some_inj]
    constructor
    · rintro rfl
      exact ⟨rfl, ⟨⟨hmonth, hmonth'⟩, hday, hday'⟩, hfirst, hlast⟩
    · exact fun h => h.1.symm
  · rename_i h
    constructor
    · exact fun h => by cases h
    · rintro ⟨rfl, hoccurs, hrange⟩
      exact absurd ⟨hrange.1, hrange.2, hoccurs.month.1, hoccurs.month.2, hoccurs.day.1, hoccurs.day.2⟩ h

/-- The year of a date, counted from March on. -/
def marchYear (d : Date) : Int := if d.month ≤ 2 then d.year - 1 else d.year

/-- The month of a date, counted from March on. -/
def marchMonth (d : Date) : Int := (d.month + 9) % 12

/-- The day of the year, counted from March on. -/
def marchDay (d : Date) : Int := daysBeforeMonth d.marchMonth + d.day - 1

theorem toDays_eq (d : Date) :
    d.toDays = d.marchYear / 400 * 146097 + (daysBefore (d.marchYear % 400) + d.marchDay) - 719468 := rfl

theorem Occurs.marchDay_bounds {d : Date} (h : d.Occurs) :
    (0 ≤ d.marchDay ∧ d.marchDay < yearLength (d.marchYear % 400)) ∧ (5 * d.marchDay + 2) / 153 = d.marchMonth := by
  obtain ⟨hmonth, hday⟩ := h
  have hmonths := monthLength_cases d.year hmonth
  have hlength := yearLength_cases d.marchYear
  rw [yearLength_emod]
  unfold marchDay marchMonth
  unfold daysBeforeMonth at *
  by_cases hfebruary : d.month = 2
  · have hyear : d.marchYear = d.year - 1 := if_pos (by omega)
    rw [hyear] at hlength ⊢
    omega
  · omega

theorem ofDays_eq {era y k : Int} (hy : 0 ≤ y ∧ y < 400) (hk : 0 ≤ k ∧ k < yearLength y) :
    ofDays (era * 146097 + (daysBefore y + k) - 719468) =
      ⟨y + era * 400 + (if ((5 * k + 2) / 153 + 2) % 12 + 1 ≤ 2 then 1 else 0),
        (((5 * k + 2) / 153 + 2) % 12 + 1).toNat, (k - daysBeforeMonth ((5 * k + 2) / 153) + 1).toNat⟩ := by
  obtain ⟨hyear, hbounds⟩ := yearOfDay_add hy hk
  have hera : (era * 146097 + (daysBefore y + k) - 719468 + 719468) / 146097 = era := by omega
  have hday : (era * 146097 + (daysBefore y + k) - 719468 + 719468) % 146097 = daysBefore y + k := by omega
  have hrest : daysBefore y + k - (365 * y + y / 4 - y / 100) = k := by
    unfold daysBefore
    omega
  unfold yearOfDay at hyear
  unfold ofDays
  dsimp only
  rw [hera, hday, hyear, hrest]
  rfl

/-- **The number of a date is that of no other date.** -/
theorem Occurs.ofDays_toDays {d : Date} (h : d.Occurs) : ofDays d.toDays = d := by
  obtain ⟨hbounds, hmonth⟩ := h.marchDay_bounds
  obtain ⟨hlow, hhigh⟩ := h.month
  have hstart : d.month = ((d.marchMonth + 2) % 12 + 1).toNat := by
    unfold marchMonth
    omega
  have hyear : d.year = d.marchYear % 400 + d.marchYear / 400 * 400 +
      (if (d.marchMonth + 2) % 12 + 1 ≤ 2 then 1 else 0) := by
    unfold marchYear
    by_cases hearly : d.month ≤ 2
    · rw [if_pos hearly, if_pos (by omega)]
      omega
    · rw [if_neg hearly, if_neg (by omega)]
      omega
  have hday : d.day = (d.marchDay - daysBeforeMonth d.marchMonth + 1).toNat := by
    unfold marchDay
    omega
  rw [toDays_eq, ofDays_eq (by omega) hbounds, hmonth, ← hstart, ← hyear, ← hday]

theorem exists_toDays (n : Int) : ∃ d : Date, d.Occurs ∧ d.toDays = n := by
  obtain ⟨y, k, hy, hk, hday⟩ := exists_daysBefore (m := (n + 719468) % 146097) (by omega)
  have hlength := yearLength_cases y
  obtain ⟨m, hm⟩ : ∃ m, m = (5 * k + 2) / 153 := ⟨_, rfl⟩
  obtain ⟨month, hmonth⟩ : ∃ month : Nat, (month : Int) = (m + 2) % 12 + 1 := ⟨((m + 2) % 12 + 1).toNat, by omega⟩
  obtain ⟨day, hdate⟩ : ∃ day : Nat, (day : Int) = k - daysBeforeMonth m + 1 :=
    ⟨(k - daysBeforeMonth m + 1).toNat, by unfold daysBeforeMonth; omega⟩
  obtain ⟨fromMarch, hfromMarch⟩ : ∃ fromMarch, fromMarch = y + (n + 719468) / 146097 * 400 := ⟨_, rfl⟩
  obtain ⟨year, hyear⟩ : ∃ year, year = if month ≤ 2 then fromMarch + 1 else fromMarch := ⟨_, rfl⟩
  have hmonths : 1 ≤ month ∧ month ≤ 12 := by omega
  have hmarch : marchYear ⟨year, month, day⟩ = fromMarch := by
    unfold marchYear
    dsimp only
    rw [hyear]
    split <;> omega
  have hstart : marchMonth ⟨year, month, day⟩ = m := by
    unfold marchMonth
    dsimp only
    omega
  have hdays : marchDay ⟨year, month, day⟩ = k := by
    rw [marchDay, hstart]
    dsimp only
    omega
  have hlast : day ≤ monthLength year month := by
    have hend := yearLength_emod fromMarch
    have hera : fromMarch % 400 = y := by omega
    have hcases := monthLength_cases year hmonths
    rw [hera] at hend
    rcases hcases with ⟨hother, hcount⟩ | ⟨rfl, hcount⟩
    · have hnext : (month + 9 : Int) % 12 = m := hstart
      rw [hnext] at hcount
      unfold daysBeforeMonth at hcount hdate
      omega
    · have hbefore : year - 1 = fromMarch := by
        rw [hyear, if_pos (Nat.le_refl 2)]
        omega
      rw [hbefore, ← hend] at hcount
      unfold daysBeforeMonth at hdate
      omega
  refine ⟨⟨year, month, day⟩, ⟨hmonths, ?_, hlast⟩, ?_⟩
  · unfold daysBeforeMonth at hdate
    dsimp only
    omega
  · have hera : fromMarch / 400 = (n + 719468) / 146097 ∧ fromMarch % 400 = y := by omega
    rw [toDays_eq, hmarch, hdays, hera.1, hera.2]
    omega

theorem occurs_ofDays (n : Int) : (ofDays n).Occurs := by
  obtain ⟨d, hd, rfl⟩ := exists_toDays n
  rwa [hd.ofDays_toDays]

theorem toDays_ofDays (n : Int) : (ofDays n).toDays = n := by
  obtain ⟨d, hd, rfl⟩ := exists_toDays n
  rw [hd.ofDays_toDays]

/-- **A number of days is that of exactly one date of the calendar.** -/
theorem eq_ofDays_iff {d : Date} {n : Int} : d = ofDays n ↔ d.Occurs ∧ d.toDays = n := by
  constructor
  · rintro rfl
    exact ⟨occurs_ofDays n, toDays_ofDays n⟩
  · rintro ⟨hd, rfl⟩
    exact hd.ofDays_toDays.symm

/-! ## The range of years -/

/-- The number of the first day of a year. -/
def firstDay (year : Int) : Int := toDays ⟨year, 1, 1⟩

theorem firstDay_eq (year : Int) :
    firstDay year = (year - 1) * 365 + (year - 1) / 4 - (year - 1) / 100 + (year - 1) / 400 - 719162 := by
  have hmarch : marchYear ⟨year, 1, 1⟩ = year - 1 := rfl
  have hday : marchDay ⟨year, 1, 1⟩ = 306 := by
    unfold marchDay marchMonth daysBeforeMonth
    dsimp only
    omega
  rw [firstDay, toDays_eq, hmarch, hday]
  unfold daysBefore
  omega

theorem firstDay_mono {y z : Int} (h : y ≤ z) : firstDay y ≤ firstDay z := by
  rw [firstDay_eq, firstDay_eq]
  omega

theorem firstDay_add_one (year : Int) : firstDay (year + 1) = firstDay year + if isLeap year then 366 else 365 := by
  rw [firstDay_eq, firstDay_eq]
  split <;> rename_i h <;> rw [isLeap_iff] at h <;> omega

/-- A date is between the first day of its year and that of the next one. -/
theorem Occurs.toDays_bounds {d : Date} (h : d.Occurs) :
    firstDay d.year ≤ d.toDays ∧ d.toDays < firstDay (d.year + 1) := by
  obtain ⟨⟨hlow, hhigh⟩, hmonth⟩ := h.marchDay_bounds
  obtain ⟨hfirst, hlast⟩ := h.month
  have hstart : d.marchMonth = (d.month + 9 : Int) % 12 := rfl
  rw [yearLength_emod] at hhigh
  rw [toDays_eq, firstDay_eq, firstDay_eq]
  unfold daysBefore
  by_cases hearly : d.month ≤ 2
  · have hmarch : d.marchYear = d.year - 1 := if_pos hearly
    have hlength := yearLength_cases d.marchYear
    rw [hmarch] at *
    omega
  · have hmarch : d.marchYear = d.year := if_neg hearly
    rw [hmarch] at *
    omega

theorem Occurs.inRange_iff {d : Date} (h : d.Occurs) :
    d.InRange ↔ firstDay firstYear ≤ d.toDays ∧ d.toDays < firstDay (lastYear + 1) := by
  obtain ⟨hlow, hhigh⟩ := h.toDays_bounds
  constructor
  · rintro ⟨hfirst, hlast⟩
    exact ⟨(firstDay_mono hfirst).trans hlow, hhigh.trans_le (firstDay_mono (Int.add_le_add_right hlast 1))⟩
  · rintro ⟨hfirst, hlast⟩
    constructor <;> by_contra hout
    · exact absurd (hhigh.trans_le (firstDay_mono (by omega))) (not_lt.2 hfirst)
    · exact absurd (hlast.trans_le ((firstDay_mono (by omega)).trans hlow)) (lt_irrefl _)

/-- **The date at a number of days is the one of that number**, if its year is in range. -/
theorem ofDays?_eq_some_iff {n : Int} {d : Date} : ofDays? n = some d ↔ d.Listed ∧ d.toDays = n := by
  unfold ofDays?
  dsimp only
  split
  · rename_i hrange
    rw [Option.some_inj, eq_comm, eq_ofDays_iff]
    constructor
    · rintro ⟨hd, rfl⟩
      rw [hd.ofDays_toDays] at hrange
      exact ⟨⟨hd, hrange⟩, rfl⟩
    · exact fun h => ⟨h.1.1, h.2⟩
  · rename_i hrange
    constructor
    · exact fun h => by cases h
    · rintro ⟨⟨hd, hd'⟩, rfl⟩
      rw [hd.ofDays_toDays] at hrange
      exact absurd hd' hrange

theorem ofDays?_eq_none_iff {n : Int} : ofDays? n = none ↔ n < firstDay firstYear ∨ firstDay (lastYear + 1) ≤ n := by
  have hrange := (occurs_ofDays n).inRange_iff
  rw [toDays_ofDays] at hrange
  have hnone : ofDays? n = none ↔ ¬ (ofDays n).InRange := by
    unfold ofDays?
    dsimp only
    split
    · rename_i h
      simp [InRange, h]
    · rename_i h
      simpa [InRange] using h
  rw [hnone, hrange]
  omega

theorem listed_of_ofOrdinal? {year : Int} {n : Nat} {d : Date} (h : ofOrdinal? year n = some d) : d.Listed := by
  obtain ⟨⟨hfirst, hlast, hlow, hhigh⟩, hd⟩ := Option.ite_none_right_eq_some.1 h
  cases hd
  refine ⟨occurs_ofDays _, (occurs_ofDays _).inRange_iff.2 ?_⟩
  have hbegin := firstDay_mono hfirst
  have hend := firstDay_mono (Int.add_le_add_right hlast 1)
  have hnext := firstDay_add_one year
  have hstart : toDays ⟨year, 1, 1⟩ = firstDay year := rfl
  rw [toDays_ofDays, hstart]
  by_cases hleap : isLeap year = true
  · rw [if_pos hleap] at hhigh hnext
    omega
  · rw [if_neg hleap] at hhigh hnext
    omega

end Date
end Calendar
end RowSql
