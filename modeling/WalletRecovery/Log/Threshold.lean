import WalletRecovery.Log.Event

/-!
# Thresholds

How much an event has to matter to be written.
-/

namespace WalletRecovery.Log

/-- A bound on levels: what lies deeper is not written. -/
structure Threshold where
  depth : Nat
deriving DecidableEq, Repr

namespace Threshold

/-- The threshold that lets a level pass, and all that matter more. -/
def upTo (l : Level) : Threshold :=
  ⟨l.depth⟩

def admits (t : Threshold) (l : Level) : Bool :=
  l.depth ≤ t.depth

def names : List (List Char) :=
  ["off".toList, "error".toList, "warn".toList, "info".toList, "debug".toList, "trace".toList]

def ofNumber? (cs : List Char) : Option Threshold :=
  let digits := if cs.head? = some '+' then cs.tail else cs
  if digits ≠ [] ∧ digits.all Numeral.isDigit ∧ Numeral.ofDecimal digits < names.length then
    some ⟨Numeral.ofDecimal digits⟩
  else none

def ofText? (cs : List Char) : Option Threshold :=
  (ofNumber? cs).or ((names.findIdx? (· == cs.map Char.toLower)).map (⟨·⟩))

end Threshold

end WalletRecovery.Log
