import WalletRecovery.Network
import WalletRecovery.Time.Instant

/-!
# Rescan heights

The height of the block that was mined around a given time, as if a block had been found every ten
minutes since the first one.  A wallet is rescanned from a height two days before its birthday.
-/

namespace WalletRecovery

inductive HeightError where
  | unknownNetwork (network : Network)
deriving DecidableEq, Repr

def HeightError.message : HeightError → String
  | unknownNetwork network =>
    s!"unimplemented network {network.name}, cannot estimate a birthday height"

namespace Height

/-- What is known about the pace of a network. -/
inductive Pace where
  /-- Blocks come every ten minutes from a given second on. -/
  | regular (genesis : Int)
  /-- Heights have nothing to do with time. -/
  | timeless
  | unknown
deriving DecidableEq, Repr

def pace : Network → Pace
  | .bitcoin => .regular 1231006505
  | .testnet => .regular 1296688602
  | .regtest => .timeless
  | .testnet4 => .unknown
  | .signet => .unknown

def blockInterval : Int := 600

/-- The distance from a birthday to the start of the rescan: 48 hours in seconds. -/
def safetyMargin : Nat := 48 * 3600

def greatest : Nat := 0xffffffff

/-- The number of whole block intervals in a number of seconds, none if it is negative. -/
def ofElapsed (seconds : Int) : UInt32 :=
  if seconds ≤ 0 then 0 else UInt32.ofNat (min (seconds / blockInterval).toNat greatest)

def estimate (network : Network) (t : Instant) : Except HeightError UInt32 :=
  match pace network with
  | .regular genesis => .ok (ofElapsed (t.seconds - genesis))
  | .timeless => .ok 0
  | .unknown => .error (.unknownNetwork network)

/-- The height from which to rescan for a wallet created at an instant.  An instant too early to
subtract the margin is taken as it is. -/
def estimateWithMargin (network : Network) (t : Instant) : Except HeightError UInt32 :=
  estimate network ((t.earlier? safetyMargin).getD t)

end Height

end WalletRecovery
