import Mathlib.Order.Monotone.Basic
import Mathlib.Tactic.Common
import MetricsAgent.Calendar.Basic

/-!
# Days and dates

A number of days is turned into a date by counting years from March within an era of 400 years.  What
is counted are a year, a month and a day of this month, so the result is a date of the calendar
(`Date.proper_ofDays`).
-/

namespace MetricsAgent

/-! ## Times of the calendar -/

/-- A day of a year from 1 to 9999. -/
structure Date.Proper (d : Date) : Prop where
  year_pos : 1 ≤ d.year
  year_le : d.year ≤ 9999
  month_pos : 1 ≤ d.month
  month_le : d.month ≤ 12
  day_pos : 1 ≤ d.day
  day_le : d.day ≤ Date.daysInMonth d.year d.month

/-- A time of day on such a day, less than a day away from UTC. -/
structure DateTime.Proper (t : DateTime) : Prop where
  date : t.date.Proper
  hour : t.hour < 24
  minute : t.minute < 60
  second : t.second < 60
  micro : t.micro < 1000000
  offset : ∀ o, t.offset = some o → o.natAbs < 86400

namespace Date

lemma daysInMonth_le (y m : ℕ) : daysInMonth y m ≤ 31 := by
  unfold daysInMonth
  split_ifs <;> omega

/-! ## Years of an era -/

/-- The days of an era before a year that begins in March. -/
def yearStart (y : ℕ) : ℕ :=
  365 * y + y / 4 - y / 100

/-- Days of an era with the leap days taken out, so that all years are equally long. -/
def evenDays (n : ℕ) : ℕ :=
  n - n / 1460 + n / 36524 - n / 146096

/-- The year of a day of an era. -/
def yearOfEra (n : ℕ) : ℕ :=
  evenDays n / 365

lemma monotone_evenDays : Monotone evenDays := by
  refine monotone_nat_of_le_succ fun n => ?_
  unfold evenDays
  omega

lemma evenDays_yearStart : ∀ y ≤ 399,
    365 * y ≤ evenDays (yearStart y) ∧ (y ≠ 0 → evenDays (yearStart y - 1) < 365 * y) := by
  decide +kernel

lemma yearOfEra_le {n : ℕ} (hn : n < 146097) : yearOfEra n ≤ 399 := by
  unfold yearOfEra evenDays
  omega

lemma yearStart_yearOfEra_le {n : ℕ} (hn : n < 146097) : yearStart (yearOfEra n) ≤ n := by
  have hy := evenDays_yearStart _ (yearOfEra_le hn)
  by_contra hlt
  have hpos : yearOfEra n ≠ 0 := by
    intro hzero
    rw [hzero] at hlt
    exact hlt (Nat.zero_le n)
  have hmono := monotone_evenDays (show n ≤ yearStart (yearOfEra n) - 1 by omega)
  have hlast := hy.2 hpos
  have hyear : yearOfEra n = evenDays n / 365 := rfl
  omega

lemma lt_yearStart_succ {n : ℕ} (hy : yearOfEra n < 399) :
    n < yearStart (yearOfEra n + 1) := by
  by_contra hle
  have hnext := (evenDays_yearStart (yearOfEra n + 1) hy).1
  have hmono := monotone_evenDays (Nat.le_of_not_lt hle)
  have hyear : yearOfEra n = evenDays n / 365 := rfl
  omega

/-- The day of the year, from the first of March. -/
def dayOfYear (n : ℕ) : ℕ :=
  n - yearStart (yearOfEra n)

/-- A year that ends with February has a 366th day only in a leap year. -/
lemma dayOfYear_cases {n : ℕ} (hn : n < 146097) :
    dayOfYear n < 365 ∨ dayOfYear n = 365 ∧ isLeapYear (yearOfEra n + 1) = true := by
  have hle := yearStart_yearOfEra_le hn
  have hlt := lt_yearStart_succ (n := n)
  have hmost := yearOfEra_le hn
  unfold dayOfYear isLeapYear
  unfold yearStart at hle hlt ⊢
  generalize yearOfEra n = y at hle hlt hmost ⊢
  by_cases hlast : y = 399
  · subst hlast
    simp
    omega
  · have hnext := hlt (by omega)
    have hfour : (y + 1) / 4 = y / 4 ∨ (y + 1) / 4 = y / 4 + 1 ∧ (y + 1) % 4 = 0 := by omega
    have hhundred : (y + 1) / 100 = y / 100 ∧ (y + 1) % 100 ≠ 0 ∨ (y + 1) / 100 = y / 100 + 1 := by
      omega
    simp only [Bool.and_eq_true, Bool.or_eq_true, beq_iff_eq, bne_iff_ne]
    omega

/-! ## Months of a year -/

/-- The month of a day of the year, as counted from March. -/
def monthOf (doy : ℕ) : ℕ :=
  if (5 * doy + 2) / 153 < 10 then (5 * doy + 2) / 153 + 3 else (5 * doy + 2) / 153 - 9

/-- The day of the month of a day of the year. -/
def dayOf (doy : ℕ) : ℕ :=
  doy - (153 * ((5 * doy + 2) / 153) + 2) / 5 + 1

lemma monthOf_dayOf : ∀ doy < 366, 1 ≤ monthOf doy ∧ monthOf doy ≤ 12 ∧ 1 ≤ dayOf doy ∧
    dayOf doy ≤ daysInMonth 2000 (monthOf doy) ∧
    (doy < 365 → dayOf doy ≤ daysInMonth 2001 (monthOf doy)) ∧ (doy = 365 → monthOf doy = 2) ∧
    (306 ≤ doy ↔ monthOf doy ≤ 2) := by
  decide +kernel

/-- The length of a month depends on nothing but whether the year is a leap year. -/
lemma daysInMonth_congr {y y' : ℕ} (h : isLeapYear y = isLeapYear y') (m : ℕ) :
    daysInMonth y m = daysInMonth y' m := by
  unfold daysInMonth
  rw [h]

lemma daysInMonth_common_le (y m : ℕ) : daysInMonth 2001 m ≤ daysInMonth y m := by
  have hcommon : isLeapYear 2001 = false := by decide
  unfold daysInMonth
  rw [hcommon]
  cases isLeapYear y with
  | false => exact Nat.le_refl _
  | true =>
    simp only [Bool.false_eq_true, reduceIte]
    split_ifs <;> omega

lemma isLeapYear_add (y k : ℕ) : isLeapYear (y + 400 * k) = isLeapYear y := by
  have hfour : (y + 400 * k) % 4 = y % 4 := by omega
  have hhundred : (y + 400 * k) % 100 = y % 100 := by omega
  have hera : (y + 400 * k) % 400 = y % 400 := by omega
  unfold isLeapYear
  rw [hfour, hhundred, hera]

/-! ## Dates -/

lemma ofDays_eq {days era : ℤ} {n : ℕ} (hn : n < 146097) (h : days + 719468 = era * 146097 + n) :
    ofDays days = ⟨(yearOfEra n + era * 400 + if monthOf (dayOfYear n) ≤ 2 then 1 else 0).toNat,
      monthOf (dayOfYear n), dayOf (dayOfYear n)⟩ := by
  have hera : (days + 719468).fdiv 146097 = era := by
    rw [Int.fdiv_eq_ediv_of_nonneg _ (by decide)]
    omega
  have hday : days + 719468 - era * 146097 = n := by omega
  have hyear : ((n : ℤ) - n / 1460 + n / 36524 - n / 146096) / 365 = (yearOfEra n : ℤ) := by
    unfold yearOfEra evenDays
    omega
  have hdoy : (n : ℤ) - (365 * (yearOfEra n : ℤ) + yearOfEra n / 4 - yearOfEra n / 100)
      = (dayOfYear n : ℤ) := by
    have hle := yearStart_yearOfEra_le hn
    unfold dayOfYear
    unfold yearStart at hle ⊢
    omega
  unfold ofDays
  dsimp only
  rw [hera, hday, hyear, hdoy]
  unfold monthOf dayOf
  generalize dayOfYear n = doy
  have hmonth : (5 * (doy : ℤ) + 2) / 153 = ((5 * doy + 2) / 153 : ℕ) := by omega
  have hfirst : (153 * ((5 * doy + 2) / 153) + 2) / 5 ≤ doy := by omega
  rw [hmonth, Date.mk.injEq]
  generalize (5 * doy + 2) / 153 = mp at hfirst ⊢
  refine ⟨?_, ?_, ?_⟩
  · congr 2
    split_ifs <;> omega
  · split_ifs <;> omega
  · omega

/-- The dates of the days from the year 0 to the year 9999 are dates of the calendar, if the year is
not 0. -/
theorem proper_ofDays {days : ℤ} (hlow : -719528 ≤ days) (hhigh : days ≤ 2932896)
    (hyear : (ofDays days).year ≠ 0) : (ofDays days).Proper := by
  obtain ⟨era, n, hn, hdays⟩ : ∃ (era : ℤ) (n : ℕ), n < 146097 ∧ days + 719468 = era * 146097 + n :=
    ⟨(days + 719468) / 146097, ((days + 719468) % 146097).toNat, by omega, by omega⟩
  have hdate := ofDays_eq hn hdays
  have hmost := yearOfEra_le hn
  have hsplit : n = yearStart (yearOfEra n) + dayOfYear n := by
    have hle := yearStart_yearOfEra_le hn
    unfold dayOfYear
    omega
  have hcases := dayOfYear_cases hn
  obtain ⟨hmonth, hmonth', hday, hleap, hcommon, hlast, hspring⟩ :=
    monthOf_dayOf (dayOfYear n) (by omega)
  rw [hdate] at hyear ⊢
  dsimp only at hyear
  refine ⟨Nat.one_le_iff_ne_zero.mpr hyear, ?_, hmonth, hmonth', hday, ?_⟩
  · dsimp only
    rcases Nat.lt_or_ge (yearOfEra n) 399 with hbefore | hlastYear
    · split_ifs <;> omega
    · have hstart : yearStart (yearOfEra n) = 145731 := by
        rw [Nat.le_antisymm hmost hlastYear]
        rfl
      split_ifs <;> omega
  · dsimp only
    rcases hcases with hcases | ⟨hcases, hyears⟩
    · exact (hcommon hcases).trans (daysInMonth_common_le _ _)
    · have hfebruary : monthOf (dayOfYear n) ≤ 2 := Nat.le_of_eq (hlast hcases)
      rw [if_pos hfebruary] at hyear ⊢
      have hcount : ((yearOfEra n : ℤ) + era * 400 + 1).toNat
          = yearOfEra n + 1 + 400 * era.toNat := by
        omega
      have hsame : isLeapYear (yearOfEra n + 1 + 400 * era.toNat) = isLeapYear 2000 := by
        rw [isLeapYear_add, hyears]
        rfl
      rw [hcount, daysInMonth_congr hsame]
      exact hleap

end Date

end MetricsAgent
