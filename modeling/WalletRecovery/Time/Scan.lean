import WalletRecovery.Bytes
import WalletRecovery.Text.Blank
import WalletRecovery.Time.Instant

/-!
# Scanning written times

The pieces that time formats are made of.  Each takes what it needs from the front of a text and
leaves the rest; `Stamp` collects the fields that were read, and `Stamp.toInstant` makes sense of
them.
-/

namespace WalletRecovery

inductive TimeError where
  /-- The text ends where more was expected. -/
  | premature
  /-- Something else stands where a field or a mark was expected. -/
  | invalid
  /-- A field has no such value, or there is no such date. -/
  | outOfRange
  /-- Something stands behind the time. -/
  | trailing
  /-- The time leaves the calendar when it is moved to universal time. -/
  | impossible
deriving DecidableEq, Repr

def TimeError.message : TimeError → String
  | premature => "premature end of input"
  | invalid => "input contains invalid characters"
  | outOfRange => "input is out of range"
  | trailing => "trailing input"
  | impossible => "no possible date and time matching input"

abbrev Scan := StateT (List Char) (Except TimeError)

namespace Scan

def number (least most : Nat) : Scan Nat := fun cs =>
  let digits := (cs.take most).takeWhile Numeral.isDigit
  if cs.length < least then .error .premature
  else if digits.length < least then .error .invalid
  else .ok (Numeral.ofDecimal digits, cs.drop digits.length)

def numberWithin (least most low high : Nat) : Scan Nat := do
  let n ← number least most
  if low ≤ n ∧ n ≤ high then return n else throw .outOfRange

def mark (c : Char) : Scan Unit := fun cs =>
  match cs with
  | [] => .error .premature
  | d :: rest => if d = c then .ok ((), rest) else .error .invalid

def blanks : Scan Unit := fun cs =>
  .ok ((), Text.trimStart cs)

/-- Reads what separates a date from a time of day: the letter `T` in either case, or a space. -/
def separator : Scan Unit := fun cs =>
  match cs with
  | [] => .error .premature
  | d :: rest => if d = 'T' ∨ d = 't' ∨ d = ' ' then .ok ((), rest) else .error .invalid

/-- Reads a fraction of a second, if there is one, as nanoseconds.  Digits behind the ninth are
skipped. -/
def fraction : Scan Nat := fun cs =>
  match cs with
  | '.' :: rest =>
    let digits := rest.takeWhile Numeral.isDigit
    if rest = [] then .error .premature
    else if digits = [] then .error .invalid
    else
      let nine := digits.take 9
      .ok (Numeral.ofDecimal nine * Nat.pow 10 (9 - nine.length), rest.dropWhile Numeral.isDigit)
  | _ => .ok (0, cs)

def twoDigits : Scan Nat := fun cs =>
  if byteLength cs < 2 then .error .premature
  else
    match cs with
    | a :: b :: rest =>
      if Numeral.isDigit a && Numeral.isDigit b then .ok (Numeral.ofDecimal [a, b], rest)
      else .error .invalid
    | _ => .error .invalid

/-- Reads the sign of an offset; the mathematical minus sign counts as a hyphen. -/
def sign : Scan Int := fun cs =>
  match cs with
  | [] => .error .premature
  | c :: rest =>
    if c = '+' then .ok (1, rest)
    else if c = '-' ∨ c = '\u2212' then .ok (-1, rest)
    else .error .invalid

/-- Reads a signed offset from universal time in minutes; `colon` reads what stands between hours
and minutes. -/
def signedOffset (colon : Scan Unit) : Scan Int := do
  let factor ← sign
  let hours ← twoDigits
  colon
  let minutes ← twoDigits
  if minutes < 60 then return factor * (60 * hours + minutes) else throw .outOfRange

/-- Reads an offset from universal time in minutes; the letter `Z` in either case stands for
none. -/
def offset (colon : Scan Unit) : Scan Int := fun cs =>
  match cs with
  | 'Z' :: rest => .ok (0, rest)
  | 'z' :: rest => .ok (0, rest)
  | _ => signedOffset colon cs

/-- Reads a year: up to four digits, or any number of digits with a sign. -/
def year : Scan Int := do
  blanks
  let cs ← get
  let n ← match cs with
    | '-' :: rest =>
      set rest
      let n ← number 1 rest.length
      pure (-(n : Int))
    | '+' :: rest =>
      set rest
      let n ← number 1 rest.length
      pure (n : Int)
    | _ =>
      let n ← number 1 4
      pure (n : Int)
  if -0x80000000 ≤ n ∧ n < 0x80000000 then return n else throw .outOfRange

def field (low high : Nat) : Scan Nat := do
  blanks
  numberWithin 1 2 low high

end Scan

structure Stamp where
  date : Date
  hour : Nat := 0
  minute : Nat := 0
  second : Nat := 0
  nanos : Nat := 0
  /-- How far the clock is ahead of universal time, in minutes. -/
  offset : Int := 0
deriving DecidableEq, Repr

/-- The instant that a written time stands for.  Second 60 is a leap second. -/
def Stamp.toInstant (s : Stamp) : Except TimeError Instant :=
  if s.date.Exists ∧ Date.firstYear ≤ s.date.year ∧ s.date.year ≤ Date.lastYear ∧
      s.offset.natAbs < 24 * 60 then
    let clock : Int := s.hour * 3600 + (s.minute - s.offset) * 60 + (min s.second 59 : Nat)
    let nanos := s.nanos + if s.second = 60 then nanosPerSecond else 0
    match Instant.ofParts? (s.date.dayNumber * 86400 + clock) nanos with
    | some t => .ok t
    | none => .error .impossible
  else .error .outOfRange

end WalletRecovery
