import WalletRecovery.Network
import WalletRecovery.Path.ChildNumber
import WalletRecovery.Curve.Scalar
import WalletRecovery.Curve.Compressed
import WalletRecovery.Hash.Ripemd160

/-!
# Extended keys

A key with everything that is needed to derive its descendants.  It holds either a secret key or
only the public point that belongs to one.
-/

namespace WalletRecovery

open Curve

inductive KeyMaterial where
  | secret (key : SecretKey)
  | point (p : Point)
deriving DecidableEq

def KeyMaterial.publicPoint : KeyMaterial → Point
  | secret key => key.publicPoint
  | point p => p

/-- A key with its place below a master key. -/
structure ExtendedKey where
  /-- The kind of network that the key was made for. -/
  kind : NetworkKind
  /-- The number of steps from the master key. -/
  depth : UInt8
  /-- The fingerprint of the parent, zero for a master key. -/
  parent : Bytes 4
  /-- The step from the parent, zero for a master key. -/
  child : ChildNumber
  chainCode : Bytes 32
  material : KeyMaterial
deriving DecidableEq

namespace ExtendedKey

def secret? (k : ExtendedKey) : Option SecretKey :=
  match k.material with
  | .secret key => some key
  | .point _ => none

def isPrivate (k : ExtendedKey) : Bool :=
  k.secret?.isSome

def publicPoint (k : ExtendedKey) : Point :=
  k.material.publicPoint

def publicKey (k : ExtendedKey) : Bytes 33 :=
  k.publicPoint.compress

def fingerprintOf (publicKey : Bytes 33) : Bytes 4 :=
  (Bytes.split (show Bytes (4 + 16) from hash160 publicKey.toList)).1

/-- The fingerprint by which the children of a key name their parent. -/
def fingerprint (k : ExtendedKey) : Bytes 4 :=
  fingerprintOf k.publicKey

def neuter (k : ExtendedKey) : ExtendedKey :=
  { k with material := .point k.publicPoint }

@[simp] theorem isPrivate_neuter (k : ExtendedKey) : k.neuter.isPrivate = false := rfl

end ExtendedKey

end WalletRecovery
