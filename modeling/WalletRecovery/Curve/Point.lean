import WalletRecovery.Curve.Field

/-!
# The group of secp256k1

Points of the curve `y² = x³ + 7` in affine form, with the chord and tangent law.  `OnCurve` is the
condition that every point computed here meets; the type itself also holds points off the curve.
-/

namespace WalletRecovery.Curve

/-- A point of the plane with the point at infinity. -/
inductive Point where
  | infinity
  | affine (x y : Field)
deriving DecidableEq

namespace Point

def OnCurve : Point → Prop
  | infinity => True
  | affine x y => y * y = x * x * x + 7

instance (p : Point) : Decidable p.OnCurve :=
  match p with
  | infinity => isTrue trivial
  | affine x y => inferInstanceAs (Decidable (y * y = x * x * x + 7))

/-- The sum of `(x, y)` and the point with first coordinate `x'`, if `m` is the slope of the line
through both: the third point of that line, with its second coordinate negated. -/
def onLine (m x y x' : Field) : Point :=
  let x'' := m * m - x - x'
  affine x'' (m * (x - x'') - y)

def add : Point → Point → Point
  | infinity, q => q
  | p, infinity => p
  | affine x y, affine x' y' =>
    if x = x' then
      if y = y' ∧ y ≠ 0 then onLine (3 * x * x * (2 * y).inverse) x y x
      else infinity
    else onLine ((y' - y) * (x' - x).inverse) x y x'

instance : Add Point := ⟨add⟩

def generator : Point :=
  affine
    (Field.ofNat 0x79be667ef9dcbbac55a06295ce870b07029bfcdb2dce28d959f2815b16f81798)
    (Field.ofNat 0x483ada7726a3c4655da4fbfc0e1108a8fd17b448a68554199c47d08ffb10d4b8)

theorem generator_onCurve : generator.OnCurve := by decide +kernel

end Point

end WalletRecovery.Curve
