import WalletRecovery.Time.Timestamp

/-!
# Birthdays

The creation time of a wallet as people type it: a timestamp, or a date for its first moment.
-/

namespace WalletRecovery.Birthday

def dateStamp : Scan Stamp := do
  let year ← Scan.year
  Scan.mark '-'
  let month ← Scan.field 1 12
  Scan.mark '-'
  let day ← Scan.field 1 31
  return { date := ⟨year, month, day⟩ }

structure Invalid where
  text : String
deriving DecidableEq, Repr

def Invalid.message (e : Invalid) : String :=
  s!"invalid birthday `{e.text}`, expected RFC 3339 or YYYY-MM-DD"

def parse (text : String) : Except Invalid Instant :=
  let cs := Text.trim text.toList
  match Timestamp.parseStrict cs with
  | .ok t => .ok t
  | .error _ =>
    match Timestamp.complete dateStamp (·.isEmpty) cs with
    | .ok t => .ok t
    | .error _ => .error ⟨String.ofList cs⟩

end WalletRecovery.Birthday
