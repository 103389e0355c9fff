import WalletRecovery.Curve.Compressed
import WalletRecovery.Proofs.Curve.Group
import WalletRecovery.Proofs.Numeral

/-! # Compressed points read back

The modulus leaves 3 modulo 4, so every square has a root that is a power of it, and it is odd, so
the two roots have different parities. No point of the curve lies on the first axis, which is why
both marks are used for every first coordinate. -/

namespace WalletRecovery.Curve

open Residue

namespace Residue

theorem toField_neg (a : Residue) : toField (-a) = -toField a := by
  have h0 : toField (-a) = toField 0 - toField a := by rw [← toField_sub, zero_sub]
  rw [h0]
  apply Fin.ext
  rw [Fin.val_neg', Fin.sub_def]
  simp [toField]

theorem pow_mul_pow_of_square (b : Residue) :
    (b * b) ^ ((prime + 1) / 4) * (b * b) ^ ((prime + 1) / 4) = b * b := by
  have he : 2 * ((prime + 1) / 4 + (prime + 1) / 4) = prime + 1 := by decide
  rw [← pow_add, ← sq b, ← pow_mul, he, pow_succ, ZMod.pow_card, sq]

/-- Minus seven is no cube: its power by a third of the predecessor of the modulus is not one. -/
theorem cube_add_seven_ne_zero (a : Residue) : a * a * a + 7 ≠ 0 := by
  intro h
  have hseven : ((7 : ℕ) : Residue) ≠ 0 := by
    rw [Ne, ZMod.natCast_eq_zero_iff]
    decide
  have ha : a ≠ 0 := by
    rintro rfl
    apply hseven
    simpa using h
  have hcube : ((prime - 7 : ℕ) : Residue) = a ^ 3 := by
    rw [Nat.cast_sub (by decide), ZMod.natCast_self]
    push_cast
    linear_combination -h
  have hone : ((powerMod prime (prime - 7) ((prime - 1) / 3) 256 : ℕ) : Residue) =
      ((1 : ℕ) : Residue) := by
    have he : (prime - 1) / 3 % 2 ^ 256 = (prime - 1) / 3 := by decide
    have h3 : 3 * ((prime - 1) / 3) = prime - 1 := by decide
    rw [powerMod_eq, he, ZMod.natCast_mod, Nat.cast_pow, hcube, ← pow_mul, h3,
      ZMod.pow_card_sub_one_eq_one ha, Nat.cast_one]
  have hne : powerMod prime (prime - 7) ((prime - 1) / 3) 256 % prime ≠ 1 % prime := by
    decide +kernel
  exact hne ((ZMod.natCast_eq_natCast_iff _ _ _).mp hone)

end Residue

namespace Field

theorem exists_sqrt?_of_square (y : Field) :
    ∃ r, sqrt? (y * y) = some r ∧ (r = y ∨ r = -y) := by
  obtain ⟨b, rfl⟩ := toField_surjective y
  have he : (prime + 1) / 4 % 2 ^ 256 = (prime + 1) / 4 := by decide
  have hroot : power (toField b * toField b) ((prime + 1) / 4) 256 =
      toField ((b * b) ^ ((prime + 1) / 4)) := by
    rw [← toField_mul, power_toField, he]
  refine ⟨toField ((b * b) ^ ((prime + 1) / 4)), ?_, ?_⟩
  · rw [sqrt?, hroot, ← toField_mul, pow_mul_pow_of_square, toField_mul]
    exact if_pos rfl
  · rw [← toField_neg, toField_inj, toField_inj]
    exact mul_self_eq_mul_self_iff.mp (pow_mul_pow_of_square b)

theorem opposite_opposite (y : Field) : - -y = y := by
  obtain ⟨b, rfl⟩ := toField_surjective y
  rw [← toField_neg, ← toField_neg, neg_neg]

theorem opposite_mul_opposite (y : Field) : -y * -y = y * y := by
  obtain ⟨b, rfl⟩ := toField_surjective y
  rw [← toField_neg, ← toField_mul, ← toField_mul, neg_mul_neg]

/-- The curve does not meet the first axis. -/
theorem cube_add_seven_ne_zero (x : Field) : x * x * x + 7 ≠ 0 := by
  obtain ⟨a, rfl⟩ := toField_surjective x
  rw [← toField_ofNat 7, ← toField_mul, ← toField_mul, ← toField_add, Ne, toField_eq_zero]
  exact Residue.cube_add_seven_ne_zero a

theorem ofNat_val (x : Field) : ofNat x.val = x :=
  Fin.ext (Nat.mod_eq_of_lt x.isLt)

theorem toNat_toBytes (x : Field) : x.toBytes.toNat = x.val := by
  have hlt : prime < 256 ^ 32 := by decide
  exact Bytes.toNat_ofNat (x.isLt.trans hlt)

theorem parityMark_neg {y : Field} (hy : y ≠ 0) : parityMark (-y) ≠ parityMark y := by
  have hpos : 0 < y.val := Nat.pos_of_ne_zero (fun h => hy (Fin.ext h))
  have hlt := y.isLt
  have hodd : prime % 2 = 1 := by decide
  have hval : (-y).val = prime - y.val := by
    rw [Fin.val_neg', Nat.mod_eq_of_lt (by omega)]
  rw [parityMark, parityMark, hval]
  rcases Nat.mod_two_eq_zero_or_one y.val with h | h
  · rw [if_neg (by omega), if_pos h]
    decide
  · rw [if_pos (by omega), if_neg (by omega)]
    decide

/-- The mark of an element picks it out of the two roots of its square. -/
theorem pick_root {r y : Field} (h : r = y ∨ r = -y) :
    (if parityMark r = parityMark y then r else -r) = y := by
  rcases h with rfl | rfl
  · exact if_pos rfl
  · by_cases h0 : y = 0
    · subst y
      split <;> rfl
    · rw [if_neg (parityMark_neg h0), opposite_opposite]

theorem parityMark_eq (y : Field) : parityMark y = 2 ∨ parityMark y = 3 := by
  rw [parityMark]
  split
  · exact Or.inl rfl
  · exact Or.inr rfl

theorem parityMark_neg_of_ne {y : Field} (hy : y ≠ 0) {mark : UInt8} (hm : mark = 2 ∨ mark = 3)
    (hne : parityMark y ≠ mark) : parityMark (-y) = mark := by
  have hneg := parityMark_neg hy
  rcases hm with rfl | rfl
  · have hthree : parityMark y = 3 := (parityMark_eq y).resolve_left hne
    rw [hthree] at hneg
    exact (parityMark_eq (-y)).resolve_right hneg
  · have htwo : parityMark y = 2 := (parityMark_eq y).resolve_right hne
    rw [htwo] at hneg
    exact (parityMark_eq (-y)).resolve_left hneg

end Field

namespace Point

/-- Whether a point has a compressed form of its own: it lies on the curve and is not at
infinity. -/
def Compressible (p : Point) : Prop :=
  p.OnCurve ∧ p ≠ infinity

theorem decompress?_eq (mark : UInt8) (rest : Bytes 32) :
    decompress? (Bytes.single mark ++ rest) =
      if mark ≠ 2 ∧ mark ≠ 3 then none
      else if rest.toNat ≥ prime then none
      else
        let x := Field.ofNat rest.toNat
        (Field.sqrt? (x * x * x + 7)).map fun y =>
          affine x (if parityMark y = mark then y else -y) := by
  have hsplit : Bytes.split (show Bytes (1 + 32) from Bytes.single mark ++ rest) =
      (Bytes.single mark, rest) := Bytes.split_append _ _
  rw [decompress?, hsplit]
  change (if mark ≠ 2 ∧ mark ≠ 3 then none else if rest.toNat ≥ prime then none else _) = _
  split_ifs
  · rfl
  · rfl
  · rw [Option.map_eq_bind]
    rfl

theorem decompress?_compress {p : Point} (h : p.Compressible) :
    decompress? p.compress = some p := by
  cases p with
  | infinity => exact absurd rfl h.2
  | affine x y =>
    have hcurve : y * y = x * x * x + 7 := h.1
    have hmark : ¬ (parityMark y ≠ 2 ∧ parityMark y ≠ 3) := by
      rcases Field.parityMark_eq y with hm | hm <;> simp [hm]
    have hx : ¬ x.toBytes.toNat ≥ prime := by
      rw [Field.toNat_toBytes]
      exact Nat.not_le_of_lt x.isLt
    rw [compress, decompress?_eq, if_neg hmark, if_neg hx]
    simp only [Field.toNat_toBytes, Field.ofNat_val]
    obtain ⟨r, hr, hroot⟩ := Field.exists_sqrt?_of_square y
    rw [← hcurve, hr, Option.map_some]
    rw [Field.pick_root hroot]

theorem compress_of_decompress? {bs : Bytes 33} {p : Point} (h : decompress? bs = some p) :
    p.Compressible ∧ p.compress = bs := by
  obtain ⟨mark, rest, rfl⟩ := Bytes.exists_single_append (show Bytes (1 + 32) from bs)
  rw [decompress?_eq] at h
  split at h
  · cases h
  next hmark =>
  split at h
  · cases h
  next hx =>
  obtain ⟨y, hy, rfl⟩ := Option.map_eq_some_iff.mp h
  have hsquare := Field.mul_self_of_sqrt? hy
  -- a root of zero would have one mark only, and the other mark would be read but not written
  have h0 : y ≠ 0 := by
    rintro rfl
    exact Field.cube_add_seven_ne_zero _ hsquare.symm
  have hm : mark = 2 ∨ mark = 3 := by
    by_contra hn
    exact hmark (not_or.mp hn)
  refine ⟨⟨?_, Point.noConfusion⟩, ?_⟩
  · change ite _ _ _ * ite _ _ _ = _
    split
    · exact hsquare
    · rw [Field.opposite_mul_opposite]
      exact hsquare
  · have hpick : parityMark (if parityMark y = mark then y else -y) = mark := by
      split
      · next heq => exact heq
      · next hne => exact Field.parityMark_neg_of_ne h0 hm hne
    have hval : (Field.ofNat rest.toNat).toBytes = rest := by
      apply Bytes.toNat_injective
      rw [Field.toNat_toBytes]
      exact Nat.mod_eq_of_lt (Nat.lt_of_not_le hx)
    rw [compress, hpick, hval]

/-- Bytes are read as a point exactly if they are its compressed form. -/
theorem decompress?_eq_some_iff {bs : Bytes 33} {p : Point} :
    decompress? bs = some p ↔ p.Compressible ∧ p.compress = bs := by
  constructor
  · exact compress_of_decompress?
  · rintro ⟨hp, rfl⟩
    exact decompress?_compress hp

end Point

end WalletRecovery.Curve
