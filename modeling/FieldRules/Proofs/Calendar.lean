import FieldRules.Time.Calendar
import Mathlib.Algebra.Order.Ring.Int

/-!
The calendar and its count of days. The year that a day of an era is computed to lie in never falls
as the days go on, and it is right on the first and the last day of every year, so it is right on
all days. Within a year, counted from March, the months begin at days that are linear in the month.
So every day has a date that exists, and the date has that day. Main statements: `toDays_ofDays` and
`valid_ofDays`.
-/
namespace FieldRules.Time.Date

/-! ### Years of an era -/

def yearStart (year : ℤ) : ℤ := 365 * year + year / 4 - year / 100 + year / 400

def yearOfEra (day : ℤ) : ℤ := (day - day / 1460 + day / 36524 - day / 146096) / 365

/-- The formula for the year is right on the first and the last day of each year; as it never falls,
it is right on the days between. -/
theorem yearOfEra_yearStart : ∀ year ∈ List.range 400,
    yearOfEra (yearStart year) = year ∧ yearOfEra (yearStart (year + 1) - 1) = year := by
  decide +kernel

theorem yearOfEra_mono {a b : ℤ} (hab : a ≤ b) (hb : b < 146097) : yearOfEra a ≤ yearOfEra b := by
  induction b, hab using Int.leInduction with
  | base => exact le_rfl
  | succ b hab ih =>
    have hstep : yearOfEra b ≤ yearOfEra (b + 1) := by
      unfold yearOfEra
      omega
    exact (ih (by omega)).trans hstep

section Era

variable {day : ℤ} (hday : 0 ≤ day) (hera : day < 146097)
include hday hera

theorem yearOfEra_range : 0 ≤ yearOfEra day ∧ yearOfEra day < 400 := by
  unfold yearOfEra
  omega

/-- A day before the year has at most the number of the last day before it, and a day after the
year at least that of the next one, if the era has a next one. -/
theorem day_in_year : yearStart (yearOfEra day) ≤ day ∧ day < yearStart (yearOfEra day + 1) := by
  obtain ⟨hlow, hhigh⟩ := yearOfEra_range hday hera
  obtain ⟨year, hyear⟩ := Int.eq_ofNat_of_zero_le hlow
  rw [hyear] at hhigh ⊢
  constructor
  · by_contra! hlt
    cases year with
    | zero => exact absurd hlt (not_lt.mpr hday)
    | succ year =>
      have hlast := (yearOfEra_yearStart year (List.mem_range.mpr (by omega))).2
      have hle := yearOfEra_mono (Int.le_sub_one_of_lt hlt) (by unfold yearStart; omega)
      rw [Nat.cast_succ] at hle hyear
      omega
  · by_contra! hle
    have hnext : year + 1 < 400 := by
      by_contra hlast
      obtain rfl : year = 399 := by omega
      exact absurd hle (not_le.mpr hera)
    have hfirst := (yearOfEra_yearStart (year + 1) (List.mem_range.mpr hnext)).1
    have hle := yearOfEra_mono hle hera
    rw [Nat.cast_succ] at hfirst
    omega

end Era

theorem isLeapYear_iff (year : ℤ) :
    isLeapYear year = true ↔ year % 4 = 0 ∧ (year % 100 ≠ 0 ∨ year % 400 = 0) := by
  unfold isLeapYear
  simp

/-- A year from March to February is a day longer if its February is that of a leap year. -/
theorem yearStart_succ (era year : ℤ) : yearStart (year + 1) =
    yearStart year + if isLeapYear (year + 1 + era * 400) then 366 else 365 := by
  unfold yearStart
  split
  · rename_i hleap
    rw [isLeapYear_iff] at hleap
    omega
  · rename_i hleap
    rw [isLeapYear_iff] at hleap
    omega

/-! ### Dates counted from March -/

def monthStart (month : ℤ) : ℤ := (153 * month + 2) / 5

/-- The date lies in a year of an era and in a month, both counted from March. -/
structure FromMarch (d : Date) (era year month : ℤ) : Prop where
  year_range : 0 ≤ year ∧ year < 400
  month_range : 0 ≤ month ∧ month < 12
  day_pos : 1 ≤ d.day
  in_month : monthStart month + d.day ≤ monthStart (month + 1)
  in_year : yearStart year + monthStart month + d.day ≤ yearStart (year + 1)
  year_eq : d.year = year + era * 400 + if d.month ≤ 2 then 1 else 0
  month_eq : (d.month : ℤ) = if month < 10 then month + 3 else month - 9

namespace FromMarch

variable {d : Date} {era year month : ℤ} (h : FromMarch d era year month)
include h

/-- The number of a day adds up the eras, the years, the months and the days before it, all counted
from March. -/
theorem toDays_eq : d.toDays =
    era * 146097 + yearStart year + (monthStart month + d.day - 1) - 719468 := by
  obtain ⟨hyear, hmonth, -, -, -, hd, hm⟩ := h
  have hmarch : (if d.month ≤ 2 then d.year - 1 else d.year) = year + era * 400 := by
    rw [hd]
    split <;> omega
  have hfrom : (((d.month + 9) % 12 : ℕ) : ℤ) = month := by
    split at hm <;> omega
  have hera : (year + era * 400) / 400 = era := by omega
  have hrest : (year + era * 400) % 400 = year := by omega
  have hshort : year / 400 = 0 := by omega
  unfold toDays yearStart monthStart
  dsimp only
  rw [hmarch, hfrom, hera, hrest, hshort]
  omega

theorem valid : d.Valid := by
  obtain ⟨-, ⟨hlow, hhigh⟩, hpos, hinMonth, hinYear, hd, hm⟩ := h
  have hmonth : 1 ≤ d.month ∧ d.month ≤ 12 := by split at hm <;> omega
  refine ⟨hmonth.1, hmonth.2, hpos, ?_⟩
  unfold daysInMonth
  unfold monthStart at hinMonth hinYear
  by_cases hfebruary : d.month = 2
  · -- February ends the year, so the year's length counts.
    have hlast : month = 11 := by split at hm <;> omega
    have hleap : d.year = year + 1 + era * 400 := by
      rw [hd, if_pos (by omega)]
      omega
    rw [hlast, yearStart_succ era, ← hleap] at hinYear
    rw [if_pos hfebruary]
    split at hinYear
    · rename_i hlong
      rw [if_pos hlong]
      omega
    · rename_i hshort
      rw [if_neg hshort]
      omega
  · rw [if_neg hfebruary]
    split <;> split at hm <;> omega

end FromMarch

def ofMarch (era year month day : ℤ) : Date :=
  let civilMonth := if month < 10 then month + 3 else month - 9
  { year := year + era * 400 + (if civilMonth ≤ 2 then 1 else 0)
    month := civilMonth.toNat
    day := day.toNat }

section OfMarch

variable {era year month day : ℤ}

theorem month_ofMarch (h : 0 ≤ month ∧ month < 12) :
    ((ofMarch era year month day).month : ℤ) = if month < 10 then month + 3 else month - 9 :=
  Int.toNat_of_nonneg (by split <;> omega)

theorem day_ofMarch (h : 1 ≤ day) : ((ofMarch era year month day).day : ℤ) = day :=
  Int.toNat_of_nonneg (by omega)

theorem fromMarch_ofMarch (hyear : 0 ≤ year ∧ year < 400) (hmonth : 0 ≤ month ∧ month < 12)
    (hday : 1 ≤ day) (hinMonth : monthStart month + day ≤ monthStart (month + 1))
    (hinYear : yearStart year + monthStart month + day ≤ yearStart (year + 1)) :
    FromMarch (ofMarch era year month day) era year month where
  year_range := hyear
  month_range := hmonth
  day_pos := by
    have hcast : ((ofMarch era year month day).day : ℤ) = day := day_ofMarch hday
    omega
  in_month := by
    rw [day_ofMarch hday]
    exact hinMonth
  in_year := by
    rw [day_ofMarch hday]
    exact hinYear
  year_eq := by
    have hcast : ((ofMarch era year month day).month : ℤ) =
        if month < 10 then month + 3 else month - 9 := month_ofMarch hmonth
    have hyear : (ofMarch era year month day).year =
        year + era * 400 + if (if month < 10 then month + 3 else month - 9) ≤ 2 then 1 else 0 := rfl
    rw [hyear, ← hcast]
    norm_cast
  month_eq := month_ofMarch hmonth

end OfMarch

theorem ofDays_eq {days era day year rest month : ℤ} (hera : (days + 719468) / 146097 = era)
    (hday : (days + 719468) % 146097 = day) (hyear : yearOfEra day = year)
    (hrest : day - (365 * year + year / 4 - year / 100) = rest)
    (hmonth : (5 * rest + 2) / 153 = month) :
    ofDays days = ofMarch era year month (rest - monthStart month + 1) := by
  subst hera hday hyear hrest hmonth
  rfl

theorem exists_fromMarch (days : ℤ) : ∃ era year month, FromMarch (ofDays days) era year month ∧
    days + 719468 =
      era * 146097 + yearStart year + (monthStart month + (ofDays days).day - 1) := by
  obtain ⟨era, hera⟩ : ∃ era, (days + 719468) / 146097 = era := ⟨_, rfl⟩
  obtain ⟨day, hday⟩ : ∃ day, (days + 719468) % 146097 = day := ⟨_, rfl⟩
  obtain ⟨year, hyear⟩ : ∃ year, yearOfEra day = year := ⟨_, rfl⟩
  obtain ⟨rest, hrest⟩ : ∃ rest, day - (365 * year + year / 4 - year / 100) = rest := ⟨_, rfl⟩
  obtain ⟨month, hmonth⟩ : ∃ month, (5 * rest + 2) / 153 = month := ⟨_, rfl⟩
  have hdate := ofDays_eq hera hday hyear hrest hmonth
  have hlow : 0 ≤ day := by omega
  have hhigh : day < 146097 := by omega
  have hyears := yearOfEra_range hlow hhigh
  obtain ⟨hfrom, hto⟩ := day_in_year hlow hhigh
  rw [hyear] at hyears hfrom hto
  have hstart : yearStart year + rest = day := by
    unfold yearStart
    omega
  have hlength : yearStart (year + 1) ≤ yearStart year + 366 := by
    rw [yearStart_succ 0]
    split <;> omega
  have hstarts : monthStart month ≤ rest ∧ rest < monthStart (month + 1) := by
    unfold monthStart
    omega
  refine ⟨era, year, month, ?_, ?_⟩
  · rw [hdate]
    exact fromMarch_ofMarch hyears (by omega) (by omega) (by omega) (by omega)
  · rw [hdate, day_ofMarch (by omega)]
    omega

theorem toDays_ofDays (days : ℤ) : (ofDays days).toDays = days := by
  obtain ⟨era, year, month, hfrom, hdays⟩ := exists_fromMarch days
  rw [hfrom.toDays_eq]
  omega

theorem valid_ofDays (days : ℤ) : (ofDays days).Valid := by
  obtain ⟨era, year, month, hfrom, -⟩ := exists_fromMarch days
  exact hfrom.valid

theorem daysInMonth_le (year : ℤ) (month : ℕ) : daysInMonth year month ≤ 31 := by
  unfold daysInMonth
  split
  · split <;> decide
  · split <;> decide

end FieldRules.Time.Date
