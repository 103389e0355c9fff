import WalletRecovery.Proofs.Curve.Group
import Mathlib.GroupTheory.OrderOfElement

/-! # Multiples of the generator

Jacobian doubling and mixed addition follow the group law, so a multiple computed bit by bit is the
multiple in the group. The generator has prime order, which makes the public point of a number
a homomorphism whose kernel holds the multiples of that order only. -/

namespace WalletRecovery.Curve

open Residue

namespace Jacobian

def Stands (p : Jacobian) : GroupPoint → Prop
  | .zero => p.z = 0
  | .some x y _ => ∃ w : Residue, w ≠ 0 ∧ p.z = toField w ∧
      p.x = toField (x * w ^ 2) ∧ p.y = toField (y * w ^ 3)

theorem Stands.toPoint {p : Jacobian} {g : GroupPoint} (h : p.Stands g) :
    p.toPoint = Point.ofGroup g := by
  cases g with
  | zero =>
    have hz : p.z = 0 := h
    rw [Jacobian.toPoint, if_pos hz]
    rfl
  | some x y _ =>
    obtain ⟨w, hw, hz, hx, hy⟩ := h
    rw [Jacobian.toPoint, if_neg (by rwa [hz, toField_eq_zero])]
    simp only [hz, hx, hy, inverse_toField, ← toField_mul, Point.ofGroup_some, Point.affine.injEq,
      toField_inj]
    constructor <;> field_simp

theorem Stands.double {p : Jacobian} {g : GroupPoint} (h : p.Stands g) :
    p.double.Stands (g + g) := by
  cases g with
  | zero =>
    have hz : p.z = 0 := h
    rw [← WeierstrassCurve.Affine.Point.zero_def, add_zero]
    change 2 * p.y * p.z = 0
    rw [hz, mul_zero]
  | some x y hp =>
    obtain ⟨w, hw, hz, hx, hy⟩ := h
    by_cases h0 : y = 0
    · subst y
      rw [GroupPoint.add_opposite hp hp neg_zero.symm]
      change 2 * p.y * p.z = 0
      rw [hy, zero_mul, toField_zero, mul_zero, zero_mul]
    · obtain ⟨_, hsum⟩ := GroupPoint.add_self_tangent hp h0 rfl
      rw [hsum]
      have h2 := residue_two_ne_zero
      refine ⟨2 * y * w ^ 4, by simp [h2, h0, hw], ?_, ?_, ?_⟩ <;>
        simp only [Jacobian.double, hx, hy, hz, ← toField_ofNat 2, ← toField_ofNat 3,
          ← toField_ofNat 4, ← toField_ofNat 8, ← toField_mul, ← toField_sub, toField_inj]
      · ring
      · field_simp
        ring
      · field_simp
        ring

/-- Mixed addition agrees with the group in each of its cases: the first summand is at infinity,
or both are equal, opposite, or on a proper chord. -/
theorem Stands.addAffine {p : Jacobian} {g : GroupPoint} (h : p.Stands g) {x y : Residue}
    (hp : weierstrass.Nonsingular x y) :
    (p.addAffine (toField x) (toField y)).Stands (g + .some x y hp) := by
  cases g with
  | zero =>
    have hz : p.z = 0 := h
    rw [← WeierstrassCurve.Affine.Point.zero_def, zero_add, Jacobian.addAffine, if_pos hz]
    exact ⟨1, one_ne_zero, toField_one.symm, by simp, by simp⟩
  | some a b hg =>
    have hd := Stands.double h
    obtain ⟨w, hw, hz, hx, hy⟩ := h
    have hh : toField x * (p.z * p.z) - p.x = toField ((x - a) * w ^ 2) := by
      rw [hz, hx]
      simp only [← toField_mul, ← toField_sub, toField_inj]
      ring
    have hr : toField y * (p.z * p.z * p.z) - p.y = toField ((y - b) * w ^ 3) := by
      rw [hz, hy]
      simp only [← toField_mul, ← toField_sub, toField_inj]
      ring
    rw [Jacobian.addAffine, if_neg (by rwa [hz, toField_eq_zero])]
    have hscaled (c : Residue) (n : ℕ) : c * w ^ n = 0 ↔ c = 0 :=
      mul_eq_zero_iff_right (pow_ne_zero n hw)
    simp only [hh, hr, toField_eq_zero, hscaled, sub_eq_zero]
    by_cases hxa : x = a
    · subst a
      rw [if_pos rfl]
      by_cases hyb : y = b
      · subst b
        rwa [if_pos rfl]
      · have hneg : b = -y := by
          have := (GroupPoint.eq_or_eq_neg hp hg).resolve_left hyb
          rw [this, neg_neg]
        rw [if_neg hyb, GroupPoint.add_opposite hg hp hneg]
        rfl
    · obtain ⟨_, hsum⟩ := GroupPoint.add_chord hg hp (Ne.symm hxa) rfl
      have hd0 : x - a ≠ 0 := sub_ne_zero.mpr hxa
      rw [if_neg hxa, hsum]
      refine ⟨w * ((x - a) * w ^ 2), by simp [hw, hd0], ?_, ?_, ?_⟩ <;>
        simp only [hx, hy, hz, ← toField_ofNat 2, ← toField_mul, ← toField_sub, toField_inj]
      · field_simp
        ring
      · field_simp
        ring

/-- Going through the bits of a number from the highest one multiplies by it. -/
theorem multiple_stands {x y : Residue} (h : weierstrass.Nonsingular x y) (n k : ℕ) :
    (multiple (toField x) (toField y) n k).Stands
      ((n % 2 ^ k) • (WeierstrassCurve.Affine.Point.some x y h : GroupPoint)) := by
  induction k generalizing n with
  | zero =>
    rw [pow_zero, Nat.mod_one, zero_nsmul]
    rfl
  | succ k ih =>
    -- the bits above the last one are doubled, and an odd number adds the point once more
    have hd := (ih (n / 2)).double
    rw [← two_nsmul, ← mul_nsmul'] at hd
    simp only [multiple, mod_two_pow_succ n k]
    rcases Nat.mod_two_eq_zero_or_one n with hn | hn
    · rw [if_neg (by omega), hn, add_zero]
      exact hd
    · rw [if_pos hn, hn, add_nsmul, one_nsmul]
      exact hd.addAffine h

end Jacobian

theorem Point.multiply_ofGroup (g : GroupPoint) {n : ℕ} (hn : n < 2 ^ 256) :
    Point.multiply n (ofGroup g) = ofGroup (n • g) := by
  cases g with
  | zero =>
    rw [← WeierstrassCurve.Affine.Point.zero_def, nsmul_zero]
    rfl
  | some x y h =>
    have hs := (Jacobian.multiple_stands h n 256).toPoint
    rwa [Nat.mod_eq_of_lt hn] at hs

theorem exists_generator : ∃ g : GroupPoint, Point.ofGroup g = Point.generator :=
  Point.onCurve_iff_exists.mp Point.generator_onCurve

theorem order_lt : order < 2 ^ 256 := by decide

/-- The generator has the order that the secret keys are reduced by. -/
theorem addOrderOf_generator {g : GroupPoint} (hg : Point.ofGroup g = Point.generator) :
    addOrderOf g = order := by
  have : Fact order.Prime := ⟨order_prime⟩
  refine addOrderOf_eq_prime ?_ ?_
  · apply Point.ofGroup_injective
    rw [← Point.multiply_ofGroup g order_lt, hg]
    decide +kernel
  · rintro rfl
    cases hg

namespace SecretKey

theorem publicPointOf_eq {g : GroupPoint} (hg : Point.ofGroup g = Point.generator) {n : ℕ}
    (hn : n < 2 ^ 256) : publicPointOf n = Point.ofGroup (n • g) := by
  rw [publicPointOf, ← hg, Point.multiply_ofGroup g hn]

/-- Public points of a sum modulo the order are sums of public points. -/
theorem publicPointOf_add {a b : ℕ} (ha : a < 2 ^ 256) (hb : b < 2 ^ 256) :
    publicPointOf ((a + b) % order) = publicPointOf a + publicPointOf b := by
  obtain ⟨g, hg⟩ := exists_generator
  have hmod : (a + b) % order < 2 ^ 256 :=
    (Nat.mod_lt _ order_prime.pos).trans order_lt
  rw [publicPointOf_eq hg hmod, publicPointOf_eq hg ha, publicPointOf_eq hg hb,
    ← Point.ofGroup_add, ← add_nsmul, ← addOrderOf_generator hg, mod_addOrderOf_nsmul]

/-- Only the multiples of the order have no affine public point. -/
theorem publicPointOf_eq_infinity {n : ℕ} (hn : n < 2 ^ 256) :
    publicPointOf n = .infinity ↔ order ∣ n := by
  obtain ⟨g, hg⟩ := exists_generator
  rw [publicPointOf_eq hg hn, ← Point.ofGroup_zero, Point.ofGroup_injective.eq_iff,
    ← addOrderOf_generator hg, addOrderOf_dvd_iff_nsmul_eq_zero]

end SecretKey

end WalletRecovery.Curve
