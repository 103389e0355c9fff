import WalletRecovery.Time.Scan

/-!
# Reading timestamps

Two readers for RFC 3339.  The strict one takes every field at its full width and nothing between
fields.  The lenient one, for stored settings, also takes short fields, blanks before fields and
marks, signed years, and the name `UTC` for the offset.
-/

namespace WalletRecovery.Timestamp

/-- Runs a reader on a whole text; `tail` tells whether what is left may be left. -/
def complete (reader : Scan Stamp) (tail : List Char → Bool) (cs : List Char) :
    Except TimeError Instant := do
  let (stamp, rest) ← reader cs
  if tail rest then stamp.toInstant else throw .trailing

def strictStamp : Scan Stamp := do
  let year ← Scan.number 4 4
  Scan.mark '-'
  let month ← Scan.numberWithin 2 2 1 12
  Scan.mark '-'
  let day ← Scan.numberWithin 2 2 1 31
  Scan.separator
  let hour ← Scan.numberWithin 2 2 0 23
  Scan.mark ':'
  let minute ← Scan.numberWithin 2 2 0 59
  Scan.mark ':'
  let second ← Scan.numberWithin 2 2 0 60
  let nanos ← Scan.fraction
  let offset ← Scan.offset (Scan.mark ':')
  return ⟨⟨year, month, day⟩, hour, minute, second, nanos, offset⟩

def parseStrict (cs : List Char) : Except TimeError Instant :=
  complete strictStamp (·.isEmpty) cs

def colonsOrBlanks : Scan Unit := fun cs =>
  .ok ((), cs.dropWhile fun c => c == ':' || Text.isBlank c)

/-- Reads an offset, or the name of universal time in any case. -/
def lenientOffset : Scan Int := fun cs =>
  if (cs.take 3).map Char.toUpper = ['U', 'T', 'C'] then .ok (0, cs.drop 3)
  else Scan.offset colonsOrBlanks cs

def spacedMark (c : Char) : Scan Unit := do
  Scan.blanks
  Scan.mark c

def lenientStamp : Scan Stamp := do
  let year ← Scan.year
  spacedMark '-'
  let month ← Scan.field 1 12
  spacedMark '-'
  let day ← Scan.field 1 31
  Scan.separator
  let hour ← Scan.field 0 23
  spacedMark ':'
  let minute ← Scan.field 0 59
  spacedMark ':'
  let second ← Scan.field 0 60
  let nanos ← Scan.fraction
  Scan.blanks
  let offset ← lenientOffset
  return ⟨⟨year, month, day⟩, hour, minute, second, nanos, offset⟩

def parseLenient (cs : List Char) : Except TimeError Instant :=
  complete lenientStamp (·.all Text.isBlank) cs

end WalletRecovery.Timestamp
