import WalletRecovery.Bytes
import WalletRecovery.Curve.Jacobian

/-!
# Secret keys

A secret key is a number from one to the order of the group, both ends left out.  Its public point
is that multiple of the generator.
-/

namespace WalletRecovery.Curve

def order : Nat :=
  0xfffffffffffffffffffffffffffffffebaaedce6af48a03bbfd25e8cd0364141

/-- A number that may be a private key. -/
structure SecretKey where
  value : Nat
  value_pos : 0 < value
  value_lt : value < order
deriving DecidableEq

namespace SecretKey

def ofNat? (n : Nat) : Option SecretKey :=
  if h : 0 < n ∧ n < order then some ⟨n, h.1, h.2⟩ else none

def ofBytes? (bs : Bytes 32) : Option SecretKey :=
  ofNat? bs.toNat

def toBytes (k : SecretKey) : Bytes 32 :=
  Bytes.ofNat 32 k.value

def publicPointOf (n : Nat) : Point :=
  Point.multiply n Point.generator

def publicPoint (k : SecretKey) : Point :=
  publicPointOf k.value

/-- The sum of two secret keys modulo the order of the group, unless it is zero. -/
def add? (k t : SecretKey) : Option SecretKey :=
  ofNat? ((k.value + t.value) % order)

theorem ofNat?_value (k : SecretKey) : ofNat? k.value = some k := by
  simp [ofNat?, k.value_pos, k.value_lt]

end SecretKey

end WalletRecovery.Curve
