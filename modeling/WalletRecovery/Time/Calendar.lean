/-!
# The calendar

Dates of the proleptic Gregorian calendar and their numbers: the days since the first of January
1970, counted across all years, before and after.
-/

namespace WalletRecovery

/-- A year, a month and a day, which need not exist. -/
structure Date where
  year : Int
  month : Nat
  day : Nat
deriving DecidableEq, Repr

namespace Date

def isLeap (year : Int) : Bool :=
  year % 4 == 0 && (year % 100 != 0 || year % 400 == 0)

def daysBeforeMonth (leap : Bool) (month : Nat) : Nat :=
  [0, 31, 59, 90, 120, 151, 181, 212, 243, 273, 304, 334, 365].getD (month - 1) 365 +
    if leap && 2 < month then 1 else 0

def monthLength (leap : Bool) (month : Nat) : Nat :=
  daysBeforeMonth leap (month + 1) - daysBeforeMonth leap month

def Exists (d : Date) : Prop :=
  1 ≤ d.month ∧ d.month ≤ 12 ∧ 1 ≤ d.day ∧ d.day ≤ monthLength (isLeap d.year) d.month

instance (d : Date) : Decidable d.Exists :=
  inferInstanceAs (Decidable (_ ∧ _))

def firstDay (year : Int) : Int :=
  let y := year - 1
  365 * y + y / 4 - y / 100 + y / 400 - 719162

def dayNumber (d : Date) : Int :=
  firstDay d.year + daysBeforeMonth (isLeap d.year) d.month + d.day - 1

/-- The year that a day lies in: a guess from the mean length of a year, put right by one year at
most. -/
def yearOf (n : Int) : Int :=
  let guess := 400 * (n + 719162) / 146097 + 1
  if n < firstDay guess then guess - 1
  else if firstDay (guess + 1) ≤ n then guess + 1
  else guess

/-- The month that a day of a year lies in, the first day having number zero: as many months have
begun by then. -/
def monthOf (leap : Bool) (dayOfYear : Nat) : Nat :=
  (List.range 12).countP fun m => daysBeforeMonth leap (m + 1) ≤ dayOfYear

def ofDayNumber (n : Int) : Date :=
  let year := yearOf n
  let dayOfYear := (n - firstDay year).toNat
  let month := monthOf (isLeap year) dayOfYear
  ⟨year, month, dayOfYear - daysBeforeMonth (isLeap year) month + 1⟩

def firstYear : Int := -262143

def lastYear : Int := 262142

end Date

end WalletRecovery
