import WalletRecovery.Time.Instant
import Mathlib.Data.Int.Order.Basic

/-! # Days and dates

Every day has one date, and the number of this date is that of the day. So years begin where those
before them end, and the dates of instants lie in the years that have times. -/

namespace WalletRecovery.Date

def yearLength (year : ℤ) : ℕ :=
  if isLeap year then 366 else 365

theorem isLeap_iff {year : ℤ} :
    isLeap year = true ↔ year % 4 = 0 ∧ (year % 100 ≠ 0 ∨ year % 400 = 0) := by
  simp [isLeap]

theorem firstDay_succ (year : ℤ) : firstDay (year + 1) = firstDay year + yearLength year := by
  rw [yearLength, firstDay, firstDay]
  split
  · next h =>
    rw [isLeap_iff] at h
    omega
  · next h =>
    rw [isLeap_iff] at h
    omega

/-- The mean length of a year, 146097 days in 400 years, misses the first day of a year by less than
two days. -/
theorem firstDay_bounds (year : ℤ) :
    146097 * (year - 1) ≤ 400 * (firstDay year + 719162) + 699 ∧
      400 * (firstDay year + 719162) ≤ 146097 * (year - 1) + 396 := by
  rw [firstDay]
  omega

theorem yearOf_bounds (n : ℤ) : firstDay (yearOf n) ≤ n ∧ n < firstDay (yearOf n + 1) := by
  rw [yearOf]
  generalize hguess : 400 * (n + 719162) / 146097 + 1 = guess
  have hbefore := firstDay_bounds (guess - 1)
  have hafter := firstDay_bounds (guess + 1 + 1)
  split
  · rw [Int.sub_add_cancel]
    omega
  · split <;> omega

theorem firstDay_mono {y z : ℤ} (h : y ≤ z) : firstDay y ≤ firstDay z := by
  by_cases heq : y = z
  · rw [heq]
  · have hy := firstDay_bounds y
    have hz := firstDay_bounds z
    omega

theorem yearLength_eq (year : ℤ) : yearLength year = 365 + (isLeap year).toNat := by
  rw [yearLength]
  cases isLeap year <;> rfl

/-- A day of a year lies in its month. -/
theorem monthOf_bounds {leap : Bool} {day : ℕ} (h : day < 365 + leap.toNat) :
    (1 ≤ monthOf leap day ∧ monthOf leap day ≤ 12) ∧
      daysBeforeMonth leap (monthOf leap day) ≤ day ∧
      day < daysBeforeMonth leap (monthOf leap day + 1) := by
  have hall : ∀ leap : Bool, ∀ day < 365 + leap.toNat,
      (1 ≤ monthOf leap day ∧ monthOf leap day ≤ 12) ∧
        daysBeforeMonth leap (monthOf leap day) ≤ day ∧
        day < daysBeforeMonth leap (monthOf leap day + 1) := by decide +kernel
  exact hall leap day h

/-- The date of a day exists, and its number is that of the day. -/
theorem ofDayNumber_exists (n : ℤ) : (ofDayNumber n).Exists ∧ (ofDayNumber n).dayNumber = n := by
  obtain ⟨hfirst, hlast⟩ := yearOf_bounds n
  rw [firstDay_succ, yearLength_eq] at hlast
  obtain ⟨day, hday⟩ := Int.eq_ofNat_of_zero_le (Int.sub_nonneg_of_le hfirst)
  have hmonth := monthOf_bounds (show day < 365 + (isLeap (yearOf n)).toNat by omega)
  rw [ofDayNumber, hday]
  simp only [Exists, dayNumber, monthLength, Int.toNat_natCast]
  omega

theorem Exists.day_le {d : Date} (h : d.Exists) : d.day ≤ 31 := by
  obtain ⟨-, hmonth, -, hday⟩ := h
  have hall : ∀ leap : Bool, ∀ month < 13, monthLength leap month ≤ 31 := by decide
  exact Nat.le_trans hday (hall _ _ (Nat.lt_succ_of_le hmonth))

theorem dayNumber_newYear (year : ℤ) : dayNumber ⟨year, 1, 1⟩ = firstDay year := by
  have hbefore : daysBeforeMonth (isLeap year) 1 = 0 := by
    simp [daysBeforeMonth]
  rw [dayNumber, hbefore]
  dsimp only
  omega

theorem year_ofDayNumber (n : ℤ) : (ofDayNumber n).year = yearOf n := rfl

end WalletRecovery.Date

namespace WalletRecovery.Instant

theorem dayNumber_date (t : Instant) : t.date.dayNumber = t.seconds / 86400 :=
  (Date.ofDayNumber_exists _).2

theorem date_exists (t : Instant) : t.date.Exists :=
  (Date.ofDayNumber_exists _).1

theorem year_date_bounds (t : Instant) :
    Date.firstYear ≤ t.date.year ∧ t.date.year ≤ Date.lastYear := by
  obtain ⟨hfirst, hlast⟩ := Date.yearOf_bounds (t.seconds / 86400)
  have hlow := t.first_le
  have hhigh := t.le_last
  rw [Date.dayNumber_newYear] at hlow hhigh
  rw [date, Date.year_ofDayNumber]
  generalize Date.yearOf (t.seconds / 86400) = year at hfirst hlast ⊢
  constructor
  · by_contra hlt
    have hmono := Date.firstDay_mono (show year + 1 ≤ Date.firstYear by omega)
    omega
  · by_contra hlt
    have hmono := Date.firstDay_mono (show Date.lastYear + 1 ≤ year by omega)
    omega

end WalletRecovery.Instant
