import WalletRecovery.Bytes
import WalletRecovery.Curve.Jacobian

/-!
# Compressed points

A point is written as thirty-three bytes: a mark for the parity of the second coordinate, and the
first coordinate.  Reading solves the curve equation for the second coordinate.
-/

namespace WalletRecovery.Curve

def Field.toBytes (x : Field) : Bytes 32 :=
  Bytes.ofNat 32 x.val

def parityMark (y : Field) : UInt8 :=
  if y.val % 2 = 0 then 2 else 3

/-- The compressed form of a point.  The point at infinity has none; it is given zeros, which no
point of the plane shares. -/
def Point.compress : Point → Bytes 33
  | .infinity => Bytes.zero 33
  | .affine x y => Bytes.single (parityMark y) ++ x.toBytes

def Point.decompress? (bs : Bytes 33) : Option Point := do
  let (mark, rest) := Bytes.split (show Bytes (1 + 32) from bs)
  if mark.byte ≠ 2 ∧ mark.byte ≠ 3 then none
  if rest.toNat ≥ prime then none
  let x := Field.ofNat rest.toNat
  let y ← Field.sqrt? (x * x * x + 7)
  let y := if parityMark y = mark.byte then y else -y
  return .affine x y

end WalletRecovery.Curve
