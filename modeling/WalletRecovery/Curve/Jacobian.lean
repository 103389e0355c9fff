import WalletRecovery.Curve.Point

/-!
# Multiples of a point

Multiples are computed in Jacobian coordinates, where `(x, y, z)` stands for the affine point
`(x / z², y / z³)` and `z = 0` for the point at infinity, so that only the last step divides.
-/

namespace WalletRecovery.Curve

structure Jacobian where
  x : Field
  y : Field
  z : Field

namespace Jacobian

def infinity : Jacobian :=
  ⟨1, 1, 0⟩

def toPoint (p : Jacobian) : Point :=
  if p.z = 0 then .infinity
  else
    let w := p.z.inverse
    let w2 := w * w
    .affine (p.x * w2) (p.y * (w2 * w))

def double (p : Jacobian) : Jacobian :=
  let yy := p.y * p.y
  let s := 4 * p.x * yy
  let m := 3 * p.x * p.x
  let x := m * m - 2 * s
  ⟨x, m * (s - x) - 8 * (yy * yy), 2 * p.y * p.z⟩

def addAffine (p : Jacobian) (x y : Field) : Jacobian :=
  if p.z = 0 then ⟨x, y, 1⟩
  else
    let zz := p.z * p.z
    let h := x * zz - p.x
    let r := y * (zz * p.z) - p.y
    if h = 0 then
      if r = 0 then double p else infinity
    else
      let hh := h * h
      let hhh := hh * h
      let v := p.x * hh
      let x' := r * r - hhh - 2 * v
      ⟨x', r * (v - x') - p.y * hhh, p.z * h⟩

/-- The multiple of `(x, y)` by the `k` lowest bits of a number. -/
def multiple (x y : Field) (n : Nat) : Nat → Jacobian
  | 0 => infinity
  | k + 1 =>
    let twice := double (multiple x y (n / 2) k)
    if n % 2 = 1 then addAffine twice x y else twice

end Jacobian

def Point.multiply (n : Nat) : Point → Point
  | .infinity => .infinity
  | .affine x y => (Jacobian.multiple x y n 256).toPoint

end WalletRecovery.Curve
