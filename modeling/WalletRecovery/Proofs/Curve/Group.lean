import WalletRecovery.Proofs.Curve.Primality
import Mathlib.AlgebraicGeometry.EllipticCurve.Affine.Point
import Mathlib.Algebra.Field.ZMod
import Mathlib.Tactic.FieldSimp
import Mathlib.Tactic.LinearCombination

/-! # Points as a group

The field of the curve is the prime field, and its points are those of a Weierstrass curve.
The chord and tangent law on coordinates is therefore the law of an abelian group.
Nothing is assumed of the curve; its equation alone makes every point nonsingular. -/

namespace WalletRecovery.Curve

instance : Fact (Nat.Prime prime) := ⟨prime_prime⟩

abbrev Residue := ZMod prime

namespace Residue

def toField (a : Residue) : Field := ⟨a.val, a.val_lt⟩

theorem toField_injective : Function.Injective toField := by
  intro a b h
  exact ZMod.val_injective prime (Fin.mk.inj h)

@[simp] theorem toField_inj {a b : Residue} : toField a = toField b ↔ a = b :=
  toField_injective.eq_iff

theorem toField_surjective : Function.Surjective toField := by
  intro x
  refine ⟨(x.val : Residue), Fin.ext ?_⟩
  exact ZMod.val_cast_of_lt x.isLt

theorem toField_natCast (n : ℕ) : toField (n : Residue) = Field.ofNat n :=
  Fin.ext (ZMod.val_natCast prime n)

theorem toField_add (a b : Residue) : toField (a + b) = toField a + toField b :=
  Fin.ext (ZMod.val_add a b)

theorem toField_mul (a b : Residue) : toField (a * b) = toField a * toField b :=
  Fin.ext (ZMod.val_mul a b)

theorem toField_zero : toField 0 = 0 := rfl

theorem toField_one : toField 1 = 1 := rfl

@[simp] theorem toField_eq_zero {a : Residue} : toField a = 0 ↔ a = 0 := by
  rw [← toField_zero, toField_inj]

theorem toField_ofNat (n : ℕ) [n.AtLeastTwo] :
    toField ofNat(n) = OfNat.ofNat n := toField_natCast n

theorem toField_sub (a b : Residue) : toField (a - b) = toField a - toField b := by
  obtain ⟨c, hc⟩ := toField_surjective (toField a - toField b)
  have hval : c.val = (prime - b.val + a.val) % prime := congrArg Fin.val hc
  have : c = a - b := by
    rw [← ZMod.natCast_zmod_val c, hval, ZMod.natCast_mod, Nat.cast_add,
      Nat.cast_sub b.val_lt.le, ZMod.natCast_self, ZMod.natCast_zmod_val, ZMod.natCast_zmod_val]
    ring
  rw [← hc, this]

theorem power_toField (a : Residue) (e k : ℕ) :
    Field.power (toField a) e k = toField (a ^ (e % 2 ^ k)) := by
  induction k generalizing e with
  | zero => simp [Field.power, Nat.mod_one, toField_one]
  | succ k ih =>
    simp only [Field.power, ih, mod_two_pow_succ e k, ← toField_mul]
    rcases Nat.mod_two_eq_zero_or_one e with h | h
    · rw [if_neg (by omega), h, add_zero, two_mul, pow_add]
    · rw [if_pos h, h, pow_succ, two_mul, pow_add]

theorem pow_prime_sub_two (a : Residue) : a ^ (prime - 2) = a⁻¹ := by
  have h2 := prime_prime.two_le
  by_cases ha : a = 0
  · have : prime ≠ 2 := by decide
    rw [ha, inv_zero, zero_pow (by omega)]
  · have hf : a ^ (prime - 2) * a = 1 := by
      rw [← pow_succ, show prime - 2 + 1 = prime - 1 by omega, ZMod.pow_card_sub_one_eq_one ha]
    exact eq_inv_of_mul_eq_one_left hf

theorem inverse_toField (a : Residue) : (toField a).inverse = toField a⁻¹ := by
  have he : (prime - 2) % 2 ^ 256 = prime - 2 := by decide
  rw [Field.inverse, power_toField, he, pow_prime_sub_two]

end Residue

open Residue

def weierstrass : WeierstrassCurve.Affine Residue := ⟨0, 0, 0, 0, 7⟩

theorem weierstrass_equation (x y : Residue) :
    weierstrass.Equation x y ↔ y * y = x * x * x + 7 := by
  rw [WeierstrassCurve.Affine.equation_iff]
  simp only [weierstrass]
  constructor <;> intro h <;> linear_combination h

theorem discriminant_ne_zero : weierstrass.Δ ≠ 0 := by
  have h : weierstrass.Δ = -((21168 : ℕ) : Residue) := by
    simp only [weierstrass, WeierstrassCurve.Δ, WeierstrassCurve.b₂, WeierstrassCurve.b₄,
      WeierstrassCurve.b₆, WeierstrassCurve.b₈]
    norm_num
  rw [h, neg_ne_zero, Ne, ZMod.natCast_eq_zero_iff]
  decide

theorem weierstrass_nonsingular (x y : Residue) :
    weierstrass.Nonsingular x y ↔ y * y = x * x * x + 7 := by
  rw [← weierstrass_equation]
  exact (weierstrass.equation_iff_nonsingular_of_Δ_ne_zero discriminant_ne_zero).symm

/-- The points of the curve, which form an abelian group. -/
abbrev GroupPoint := weierstrass.Point

theorem residue_two_ne_zero : (2 : Residue) ≠ 0 := by
  have h : ((2 : ℕ) : Residue) ≠ 0 := by
    rw [Ne, ZMod.natCast_eq_zero_iff]
    decide
  exact_mod_cast h

namespace GroupPoint

variable {x y x' y' : Residue}

theorem negY_eq (x y : Residue) : weierstrass.negY x y = -y := by
  simp [WeierstrassCurve.Affine.negY, weierstrass]

theorem ne_neg_self (hy : y ≠ 0) : y ≠ -y := by
  intro h
  have h2 : 2 * y = 0 := by linear_combination h
  exact mul_ne_zero residue_two_ne_zero hy h2

theorem eq_or_eq_neg (h : weierstrass.Nonsingular x y) (h' : weierstrass.Nonsingular x y') :
    y = y' ∨ y = -y' := by
  have := WeierstrassCurve.Affine.Y_eq_of_X_eq h.1 h'.1 rfl
  rwa [negY_eq] at this

theorem add_opposite (h : weierstrass.Nonsingular x y) (h' : weierstrass.Nonsingular x y')
    (hy : y = -y') : WeierstrassCurve.Affine.Point.some x y h + .some x y' h' = 0 :=
  WeierstrassCurve.Affine.Point.add_of_Y_eq rfl (by rw [negY_eq, hy])

/-- Points that are not opposite sum to the third point of their line, negated. -/
theorem add_line (h : weierstrass.Nonsingular x y) (h' : weierstrass.Nonsingular x' y')
    (hne : ¬ (x = x' ∧ y = weierstrass.negY x' y')) {m : Residue}
    (hm : weierstrass.slope x x' y y' = m) :
    ∃ h'', WeierstrassCurve.Affine.Point.some x y h + .some x' y' h' =
      .some (m * m - x - x') (m * (x - (m * m - x - x')) - y) h'' := by
  have hX : weierstrass.addX x x' m = m * m - x - x' := by
    simp only [WeierstrassCurve.Affine.addX, weierstrass]
    ring
  have hY : weierstrass.addY x x' y m = m * (x - weierstrass.addX x x' m) - y := by
    rw [WeierstrassCurve.Affine.addY, negY_eq, WeierstrassCurve.Affine.negAddY]
    ring
  rw [← hX, ← hY, ← hm]
  exact ⟨_, WeierstrassCurve.Affine.Point.add_some hne⟩

theorem add_self_tangent (h : weierstrass.Nonsingular x y) (hy : y ≠ 0) {m : Residue}
    (hm : m = 3 * x * x * (2 * y)⁻¹) :
    ∃ h', WeierstrassCurve.Affine.Point.some x y h + .some x y h =
      .some (m * m - x - x) (m * (x - (m * m - x - x)) - y) h' := by
  have hne : y ≠ weierstrass.negY x y := by
    rw [negY_eq]
    exact ne_neg_self hy
  refine add_line h h (fun he => hne he.2) ?_
  rw [WeierstrassCurve.Affine.slope_of_Y_ne rfl hne, negY_eq, hm, div_eq_mul_inv]
  simp only [weierstrass]
  rw [show y - -y = 2 * y by ring]
  ring

theorem add_chord (h : weierstrass.Nonsingular x y) (h' : weierstrass.Nonsingular x' y')
    (hx : x ≠ x') {m : Residue} (hm : m = (y' - y) * (x' - x)⁻¹) :
    ∃ h'', WeierstrassCurve.Affine.Point.some x y h + .some x' y' h' =
      .some (m * m - x - x') (m * (x - (m * m - x - x')) - y) h'' := by
  refine add_line h h' (fun he => hx he.1) ?_
  rw [WeierstrassCurve.Affine.slope_of_X_ne hx, hm, ← neg_sub y', ← neg_sub x', neg_div_neg_eq,
    div_eq_mul_inv]

end GroupPoint

namespace Point

def ofGroup : GroupPoint → Point
  | .zero => infinity
  | .some x y _ => affine (toField x) (toField y)

@[simp] theorem ofGroup_zero : ofGroup 0 = infinity := rfl

@[simp] theorem ofGroup_some {x y : Residue} (h : weierstrass.Nonsingular x y) :
    ofGroup (.some x y h) = affine (toField x) (toField y) := rfl

theorem ofGroup_injective : Function.Injective ofGroup := by
  intro g h he
  cases g with
  | zero => cases h with
    | zero => rfl
    | some => cases he
  | some x y _ => cases h with
    | zero => cases he
    | some x' y' _ =>
      obtain ⟨hx, hy⟩ := Point.affine.inj he
      rw [toField_inj] at hx hy
      subst hx hy
      rfl

/-- The points that lie on the curve are those of the group. -/
theorem onCurve_iff_exists {p : Point} : p.OnCurve ↔ ∃ g, ofGroup g = p := by
  constructor
  · intro h
    cases p with
    | infinity => exact ⟨0, rfl⟩
    | affine x y =>
      obtain ⟨a, rfl⟩ := toField_surjective x
      obtain ⟨b, rfl⟩ := toField_surjective y
      have heq : b * b = a * a * a + 7 := by
        apply toField_injective
        rw [toField_mul, toField_add, toField_mul, toField_mul, toField_ofNat]
        exact h
      exact ⟨.some a b ((weierstrass_nonsingular a b).mpr heq), rfl⟩
  · rintro ⟨g, rfl⟩
    cases g with
    | zero => trivial
    | some x y h =>
      have heq := (weierstrass_nonsingular x y).mp h
      change toField y * toField y = toField x * toField x * toField x + 7
      rw [← toField_mul, heq]
      simp only [toField_mul, toField_add, toField_ofNat]

/-- The chord and tangent law on coordinates is the addition of the group. -/
theorem ofGroup_add (g h : GroupPoint) : ofGroup (g + h) = ofGroup g + ofGroup h := by
  cases g with
  | zero => rw [← WeierstrassCurve.Affine.Point.zero_def, zero_add]; rfl
  | some x y hg => cases h with
    | zero => rw [← WeierstrassCurve.Affine.Point.zero_def, add_zero]; rfl
    | some x' y' hh =>
      have hadd : ofGroup (.some x y hg) + ofGroup (.some x' y' hh) =
          add (affine (toField x) (toField y)) (affine (toField x') (toField y')) := rfl
      rw [hadd, add]
      simp only [toField_inj, Ne, toField_eq_zero]
      by_cases hx : x = x'
      · subst x'
        rw [if_pos rfl]
        by_cases hy : y = -y'
        · -- opposite points, among them any point that is its own opposite
          have hne : ¬ (y = y' ∧ ¬ y = 0) := by
            rintro ⟨rfl, h0⟩
            exact GroupPoint.ne_neg_self h0 hy
          rw [GroupPoint.add_opposite hg hh hy, if_neg hne, ofGroup_zero]
        · obtain rfl := (GroupPoint.eq_or_eq_neg hg hh).resolve_right hy
          have h0 : y ≠ 0 := by
            rintro rfl
            exact hy neg_zero.symm
          obtain ⟨_, hsum⟩ := GroupPoint.add_self_tangent hg h0 rfl
          rw [hsum, if_pos ⟨rfl, h0⟩, onLine, ← toField_ofNat 3, ← toField_ofNat 2]
          simp only [ofGroup_some, ← toField_mul, ← toField_sub, inverse_toField]
      · obtain ⟨_, hsum⟩ := GroupPoint.add_chord hg hh hx rfl
        rw [hsum, if_neg hx, onLine]
        simp only [ofGroup_some, ← toField_mul, ← toField_sub, inverse_toField]

end Point

end WalletRecovery.Curve
