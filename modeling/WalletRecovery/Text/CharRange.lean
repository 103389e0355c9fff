/-!
# Ranges of characters

Properties of characters are given by tables of code point ranges in ascending order.
-/

namespace WalletRecovery.Text

/-- The code points from `first` to `last`, both included. -/
structure CharRange where
  first : Nat
  last : Nat
deriving DecidableEq, Repr

def CharRange.contains (r : CharRange) (n : Nat) : Bool :=
  r.first ≤ n && n ≤ r.last

end WalletRecovery.Text
