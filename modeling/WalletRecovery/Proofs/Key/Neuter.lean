import WalletRecovery.Proofs.Curve.Multiple
import WalletRecovery.Proofs.Key.Derivation

/-! # Public derivation

Taking normal steps without the secret gives the public halves of the keys that the same steps
give with it. Adding to a secret and adding to its point agree because the public point of a
number is a homomorphism, also where no child exists. -/

namespace WalletRecovery

open Curve

namespace KeyMaterial

def neuter (m : KeyMaterial) : KeyMaterial := .point m.publicPoint

theorem add?_point (p : Point) (t : SecretKey) :
    (point p).add? t =
      if t.publicPoint + p = .infinity then none else some (point (t.publicPoint + p)) := by
  rw [add?]
  cases t.publicPoint + p <;> rfl

/-- Addition commutes with dropping the secret: the sum of two numbers is zero modulo the order
exactly if the sum of their points is at infinity. -/
theorem add?_neuter (m : KeyMaterial) (t : SecretKey) :
    m.neuter.add? t = (m.add? t).map neuter := by
  cases m with
  | point p =>
    change (point p).add? t = ((point p).add? t).map neuter
    rw [add?_point]
    split_ifs <;> rfl
  | secret key =>
    have ht := t.value_lt.trans order_lt
    have hk := key.value_lt.trans order_lt
    have hsum : t.publicPoint + key.publicPoint =
        SecretKey.publicPointOf ((key.value + t.value) % order) := by
      rw [Nat.add_comm]
      exact (SecretKey.publicPointOf_add ht hk).symm
    have hlt := Nat.mod_lt (key.value + t.value) order_prime.pos
    have hinf := SecretKey.publicPointOf_eq_infinity (hlt.trans order_lt)
    change (point key.publicPoint).add? t = ((key.add? t).map secret).map neuter
    rw [add?_point, hsum, SecretKey.add?, SecretKey.ofNat?]
    -- both additions refuse in the same case, the kernel of the homomorphism
    by_cases h0 : (key.value + t.value) % order = 0
    · rw [if_pos (hinf.mpr (h0 ▸ dvd_zero order)), dif_neg (by omega)]
      rfl
    · have hpos := Nat.pos_of_ne_zero h0
      rw [if_neg (mt hinf.mp (Nat.not_dvd_of_pos_of_lt hpos hlt)), dif_pos ⟨hpos, hlt⟩]
      rfl

end KeyMaterial

namespace ExtendedKey

theorem hashed_neuter (k : ExtendedKey) {c : ChildNumber} (hc : c.hardened = false) :
    k.neuter.material.hashed k.neuter.publicKey c.hardened =
      k.material.hashed k.publicKey c.hardened := by
  rw [hc]
  rfl

theorem childMaterial?_neuter (k : ExtendedKey) (data : Bytes 33) (c : ChildNumber) :
    k.neuter.childMaterial? data c = (k.childMaterial? data c).map KeyMaterial.neuter := by
  change (SecretKey.ofBytes? (k.stepHash data c).1).bind (k.material.neuter.add? ·) = _
  rw [childMaterial?]
  cases SecretKey.ofBytes? (k.stepHash data c).1 with
  | none => rfl
  | some t => exact k.material.add?_neuter t

/-- One normal step commutes with dropping the secret, refusals included. -/
theorem step_neuter (k : ExtendedKey) {c : ChildNumber} (hc : c.hardened = false) :
    k.neuter.step c = (k.step c).map neuter := by
  rw [step_eq, step_eq, hashed_neuter k hc]
  cases k.material.hashed k.publicKey c.hardened with
  | none => rfl
  | some data =>
    change (if k.depth = 255 then _ else _) = Except.map neuter (if k.depth = 255 then _ else _)
    by_cases hd : k.depth = 255
    · rw [if_pos hd, if_pos hd]
      rfl
    · rw [if_neg hd, if_neg hd, childMaterial?_neuter]
      cases k.childMaterial? data c <;> rfl

/-- Normal steps commute with dropping the secret: both runs stop at the same step for the same
reason, or end in the two halves of one key. -/
theorem deriveSteps_neuter (k : ExtendedKey) {cs : List ChildNumber}
    (hcs : ∀ c ∈ cs, c.hardened = false) :
    k.neuter.deriveSteps cs = (k.deriveSteps cs).map neuter := by
  induction cs generalizing k with
  | nil => rfl
  | cons c cs ih =>
    obtain ⟨hc, hrest⟩ := List.forall_mem_cons.mp hcs
    rw [deriveSteps_cons, deriveSteps_cons, step_neuter k hc]
    cases k.step c with
    | error e => rfl
    | ok next => exact ih next hrest

/-- Public derivation agrees with private derivation along every path of normal steps. If no
step meets an invalid tweak, both give the two halves of one key as long as the path keeps within
the depth limit, and both report the limit otherwise. -/
theorem derive_neuter (k : ExtendedKey) (p : DerivationPath)
    (hp : ∀ c ∈ p.steps, c.hardened = false) :
    k.neuter.derive p = (k.derive p).map neuter ∧
      (k.derive p ≠ .error .invalidTweak →
        if k.depth.toNat + p.length ≤ 255 then
          ∃ d, k.derive p = .ok d ∧ k.neuter.derive p = .ok d.neuter
        else k.derive p = .error .depthLimit ∧ k.neuter.derive p = .error .depthLimit) := by
  have hcomm : k.neuter.derive p = (k.derive p).map neuter := deriveSteps_neuter k hp
  refine ⟨hcomm, ?_⟩
  intro hv
  have hrun := deriveSteps_of_canTake (Or.inr hp : k.CanTake p.steps) hv
  change if k.depth.toNat + p.length ≤ 255 then ∃ d, k.derive p = .ok d
    else k.derive p = .error .depthLimit at hrun
  split_ifs at hrun ⊢ with hle
  · obtain ⟨d, hd⟩ := hrun
    refine ⟨d, hd, ?_⟩
    rw [hcomm, hd]
    rfl
  · refine ⟨hrun, ?_⟩
    rw [hcomm, hrun]
    rfl

theorem derive_neuter_sampleRoot :
    let p : DerivationPath := ⟨[.zero, .zero]⟩
    (∀ c ∈ p.steps, c.hardened = false) ∧
      ∃ d, sampleRoot.derive p = .ok d ∧ sampleRoot.neuter.derive p = .ok d.neuter := by
  intro p
  have hp : ∀ c ∈ p.steps, c.hardened = false := by decide
  have hv : sampleRoot.derive p ≠ .error .invalidTweak := by
    intro h
    have hok : (sampleRoot.derive p).isOk = true := sampleRoot_derives.1
    rw [h] at hok
    cases hok
  have hrun := (derive_neuter sampleRoot p hp).2 hv
  rw [if_pos (by decide)] at hrun
  exact ⟨hp, hrun⟩

end ExtendedKey

end WalletRecovery
