import WalletRecovery.Numeral
import WalletRecovery.Time.Calendar

/-!
# Instants

A moment in universal time, to the nanosecond.  During a leap second the nanoseconds go on counting
beyond the last second of the minute.
-/

namespace WalletRecovery

abbrev nanosPerSecond : Nat := 1000000000

/-- A moment in universal time. -/
structure Instant where
  /-- Seconds since the first of January 1970, without leap seconds. -/
  seconds : Int
  /-- Nanoseconds within the second; a full second and more during a leap second. -/
  nanos : Nat
  first_le : Date.dayNumber ⟨Date.firstYear, 1, 1⟩ * 86400 ≤ seconds
  le_last : seconds < Date.dayNumber ⟨Date.lastYear + 1, 1, 1⟩ * 86400
  nanos_lt : nanos < 2 * nanosPerSecond
  leap : nanosPerSecond ≤ nanos → seconds % 60 = 59
deriving DecidableEq, Repr

namespace Instant

def ofParts? (seconds : Int) (nanos : Nat) : Option Instant :=
  if h : (Date.dayNumber ⟨Date.firstYear, 1, 1⟩ * 86400 ≤ seconds ∧
      seconds < Date.dayNumber ⟨Date.lastYear + 1, 1, 1⟩ * 86400) ∧
      nanos < 2 * nanosPerSecond ∧ (nanosPerSecond ≤ nanos → seconds % 60 = 59) then
    some ⟨seconds, nanos, h.1.1, h.1.2, h.2.1, h.2.2⟩
  else none

theorem ofParts?_seconds_nanos (t : Instant) : ofParts? t.seconds t.nanos = some t := by
  simp only [ofParts?]
  rw [dif_pos ⟨⟨t.first_le, t.le_last⟩, t.nanos_lt, t.leap⟩]

/-- The instant a number of whole seconds before, if there is one.  Leaving a leap second backwards
crosses its beginning, so the distance is one second less on the clock. -/
def earlier? (t : Instant) (seconds : Nat) : Option Instant :=
  if nanosPerSecond ≤ t.nanos ∧ 0 < seconds then
    ofParts? (t.seconds + 1 - seconds) (t.nanos - nanosPerSecond)
  else ofParts? (t.seconds - seconds) t.nanos

def date (t : Instant) : Date :=
  Date.ofDayNumber (t.seconds / 86400)

def secondOfDay (t : Instant) : Nat :=
  (t.seconds % 86400).toNat

/-- The second within the minute, which is 60 during a leap second. -/
def second (t : Instant) : Nat :=
  t.secondOfDay % 60 + t.nanos / nanosPerSecond

/-- A year: four digits, and a sign and at least four digits outside the years 0 to 9999. -/
def yearChars (year : Int) : List Char :=
  if 0 ≤ year ∧ year ≤ 9999 then Numeral.padded 4 year.toNat
  else (if year < 0 then '-' else '+') :: Numeral.padded 4 year.natAbs

/-- A fraction of a second: nothing, or the least of three, six or nine digits that is exact. -/
def fractionChars (nanos : Nat) : List Char :=
  if nanos = 0 then []
  else if nanos % 1000000 = 0 then '.' :: Numeral.padded 3 (nanos / 1000000)
  else if nanos % 1000 = 0 then '.' :: Numeral.padded 6 (nanos / 1000)
  else '.' :: Numeral.padded 9 nanos

def dateChars (t : Instant) : List Char :=
  let d := t.date
  yearChars d.year ++ '-' :: Numeral.padded 2 d.month ++ '-' :: Numeral.padded 2 d.day

def clockChars (t : Instant) : List Char :=
  Numeral.padded 2 (t.secondOfDay / 3600) ++ ':' ::
    Numeral.padded 2 (t.secondOfDay / 60 % 60) ++ ':' ::
    Numeral.padded 2 t.second ++ fractionChars (t.nanos % nanosPerSecond)

def text (t : Instant) : String :=
  String.ofList (t.dateChars ++ ' ' :: t.clockChars ++ [' ', 'U', 'T', 'C'])

/-- An instant as it is stored: RFC 3339 with the letter `Z`. -/
def rfc3339 (t : Instant) : String :=
  String.ofList (t.dateChars ++ 'T' :: t.clockChars ++ ['Z'])

end Instant

end WalletRecovery
