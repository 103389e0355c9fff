import WalletRecovery.Key.Derivation
import Mathlib.Data.List.Basic

/-! # What derivation can do

A step either needs a secret it lacks, or is too deep, or meets an invalid tweak, or makes a child
with known fields. Runs along a path follow from this by induction on the path. -/

namespace WalletRecovery

theorem mapError_eq_ok_iff {ε ε' α : Type} {x : Except ε α} {f : ε → ε'} {a : α} :
    x.mapError f = .ok a ↔ x = .ok a := by
  cases x <;> simp [Except.mapError]

theorem ok_of_bind_eq_ok {ε α β : Type} {x : Except ε α} {f : α → Except ε β} {b : β}
    (h : x >>= f = .ok b) : ∃ a, x = .ok a ∧ f a = .ok b := by
  cases x with
  | error e => cases h
  | ok a => exact ⟨a, rfl, h⟩

theorem bind_eq_ok_of_ok {ε α β : Type} {x : Except ε α} {f : α → Except ε β} {a : α} {b : β}
    (hx : x = .ok a) (hf : f a = .ok b) : x >>= f = .ok b := by
  rw [hx]
  exact hf

namespace ExtendedKey

open Curve

/-- The two halves of the hash of a step: the number to be added and the new chain code. -/
def stepHash (k : ExtendedKey) (data : Bytes 33) (c : ChildNumber) : Bytes 32 × Bytes 32 :=
  Bytes.split (show Bytes (32 + 32) from
    hmacSha512 k.chainCode.toList (data.toList ++ c.toBytes.toList))

/-- The material that a step gives the child, unless the hashed number is out of range or the
child would be no key. -/
def childMaterial? (k : ExtendedKey) (data : Bytes 33) (c : ChildNumber) : Option KeyMaterial :=
  (SecretKey.ofBytes? (k.stepHash data c).1).bind (k.material.add? ·)

def childOf (k : ExtendedKey) (data : Bytes 33) (c : ChildNumber) (m : KeyMaterial) :
    ExtendedKey :=
  { k with
    depth := k.depth + 1
    parent := k.fingerprint
    child := c
    chainCode := (k.stepHash data c).2
    material := m }

/-- Whether a key holds what is needed for some steps: hardened ones need the secret. -/
def CanTake (k : ExtendedKey) (cs : List ChildNumber) : Prop :=
  k.isPrivate = true ∨ ∀ c ∈ cs, c.hardened = false

theorem step_eq (k : ExtendedKey) (c : ChildNumber) :
    k.step c = match k.material.hashed k.publicKey c.hardened with
      | none => .error (.privateMaterialRequired c k.depth)
      | some data =>
        if k.depth = 255 then .error .depthLimit
        else match k.childMaterial? data c with
          | none => .error .invalidTweak
          | some m => .ok (k.childOf data c m) := rfl

/-- Everything that one step can do, with the conditions under which it does. -/
inductive StepOutcome (k : ExtendedKey) (c : ChildNumber) :
    Except DerivationError ExtendedKey → Prop where
  | needsSecret : ¬ k.CanTake [c] →
      StepOutcome k c (.error (.privateMaterialRequired c k.depth))
  | tooDeep : k.CanTake [c] → k.depth = 255 → StepOutcome k c (.error .depthLimit)
  | invalidTweak (data : Bytes 33) : k.CanTake [c] → k.depth ≠ 255 →
      k.material.hashed k.publicKey c.hardened = some data →
      k.childMaterial? data c = none → StepOutcome k c (.error .invalidTweak)
  | taken (data : Bytes 33) (m : KeyMaterial) : k.CanTake [c] → k.depth ≠ 255 →
      k.material.hashed k.publicKey c.hardened = some data →
      k.childMaterial? data c = some m → StepOutcome k c (.ok (k.childOf data c m))

theorem canTake_nil (k : ExtendedKey) : k.CanTake [] :=
  Or.inr (fun _ h => by cases h)

theorem canTake_cons {k : ExtendedKey} {c : ChildNumber} {cs : List ChildNumber} :
    k.CanTake (c :: cs) ↔ k.CanTake [c] ∧ k.CanTake cs := by
  simp only [CanTake, List.forall_mem_cons, List.not_mem_nil, false_imp_iff, implies_true, and_true]
  tauto

theorem hashed_eq_none_iff {k : ExtendedKey} {c : ChildNumber} :
    k.material.hashed k.publicKey c.hardened = none ↔ ¬ k.CanTake [c] := by
  rcases hm : k.material with key | p <;> rcases hc : c.hardened <;>
    simp [KeyMaterial.hashed, CanTake, isPrivate, secret?, hm, hc]

theorem step_outcome (k : ExtendedKey) (c : ChildNumber) : StepOutcome k c (k.step c) := by
  rw [step_eq]
  split
  · next hn => exact .needsSecret (hashed_eq_none_iff.mp hn)
  · next data hd =>
    have ht : k.CanTake [c] := by
      by_contra hn
      rw [hashed_eq_none_iff.mpr hn] at hd
      cases hd
    split
    · next h255 => exact .tooDeep ht h255
    · next h255 =>
      cases hm : k.childMaterial? data c with
      | none => exact .invalidTweak data ht h255 hd hm
      | some m => exact .taken data m ht h255 hd hm

theorem isPrivate_childOf {k : ExtendedKey} {data : Bytes 33} {c : ChildNumber} {m : KeyMaterial}
    (h : k.childMaterial? data c = some m) : (k.childOf data c m).isPrivate = k.isPrivate := by
  obtain ⟨t, -, ht⟩ := Option.bind_eq_some_iff.mp h
  rcases hm : k.material with key | p
  · rw [hm] at ht
    obtain ⟨key', -, rfl⟩ := Option.map_eq_some_iff.mp ht
    simp [isPrivate, secret?, childOf, hm]
  · rw [hm] at ht
    simp only [KeyMaterial.add?] at ht
    split at ht
    · cases ht
    · obtain rfl := Option.some.inj ht
      simp [isPrivate, secret?, childOf, hm]

/-- What a key has in common with the key it was derived from, `n` steps above. -/
structure Descends (k d : ExtendedKey) (n : ℕ) : Prop where
  depth : d.depth.toNat = k.depth.toNat + n
  kind : d.kind = k.kind
  isPrivate : d.isPrivate = k.isPrivate

theorem Descends.refl (k : ExtendedKey) : Descends k k 0 := ⟨rfl, rfl, rfl⟩

theorem Descends.trans {k d e : ExtendedKey} {m n : ℕ} (h : Descends k d m)
    (h' : Descends d e n) : Descends k e (m + n) :=
  ⟨by rw [h'.depth, h.depth, Nat.add_assoc], h'.kind.trans h.kind,
    h'.isPrivate.trans h.isPrivate⟩

theorem Descends.canTake {k d : ExtendedKey} {n : ℕ} (h : Descends k d n)
    (cs : List ChildNumber) : d.CanTake cs ↔ k.CanTake cs := by
  rw [CanTake, CanTake, h.isPrivate]

theorem depth_lt_of_ne {k : ExtendedKey} (h : k.depth ≠ 255) : k.depth.toNat < 255 := by
  have hlt := k.depth.toNat_lt
  have hne : k.depth.toNat ≠ 255 := fun he => h (UInt8.toNat.inj he)
  omega

theorem step_descends {k d : ExtendedKey} {c : ChildNumber} (h : k.step c = .ok d) :
    Descends k d 1 ∧ k.CanTake [c] := by
  have ho := step_outcome k c
  rw [h] at ho
  cases ho with
  | taken data m ht hd _ hm =>
    have hlt := depth_lt_of_ne hd
    refine ⟨⟨?_, rfl, isPrivate_childOf hm⟩, ht⟩
    change (k.depth + 1).toNat = k.depth.toNat + 1
    rw [UInt8.toNat_add, UInt8.toNat_one, Nat.mod_eq_of_lt (by omega)]

theorem deriveSteps_cons (k : ExtendedKey) (c : ChildNumber) (cs : List ChildNumber) :
    k.deriveSteps (c :: cs) = k.step c >>= fun next => next.deriveSteps cs := rfl

theorem deriveSteps_append (k : ExtendedKey) (p q : List ChildNumber) :
    k.deriveSteps (p ++ q) = k.deriveSteps p >>= fun next => next.deriveSteps q := by
  induction p generalizing k with
  | nil => rfl
  | cons c p ih =>
    rw [List.cons_append, deriveSteps_cons, deriveSteps_cons]
    cases k.step c with
    | error e => rfl
    | ok next => exact ih next

theorem deriveSteps_descends {k d : ExtendedKey} {cs : List ChildNumber}
    (h : k.deriveSteps cs = .ok d) : Descends k d cs.length ∧ k.CanTake cs := by
  induction cs generalizing k with
  | nil =>
    obtain rfl := Except.ok.inj h
    exact ⟨.refl k, canTake_nil k⟩
  | cons c cs ih =>
    rw [deriveSteps_cons] at h
    obtain ⟨next, hs, h⟩ := ok_of_bind_eq_ok h
    obtain ⟨hn, hc⟩ := step_descends hs
    obtain ⟨hd, hcs⟩ := ih h
    refine ⟨?_, canTake_cons.mpr ⟨hc, (hn.canTake cs).mp hcs⟩⟩
    rw [List.length_cons, Nat.add_comm]
    exact hn.trans hd

/-- Without invalid tweaks, a path that the key can take ends in a key or at the depth limit,
and its length alone decides which. -/
theorem deriveSteps_of_canTake {k : ExtendedKey} {cs : List ChildNumber} (ht : k.CanTake cs)
    (hv : k.deriveSteps cs ≠ .error .invalidTweak) :
    if k.depth.toNat + cs.length ≤ 255 then ∃ d, k.deriveSteps cs = .ok d
    else k.deriveSteps cs = .error .depthLimit := by
  induction cs generalizing k with
  | nil =>
    have hlt := k.depth.toNat_lt
    rw [if_pos (by simp only [List.length_nil]; omega)]
    exact ⟨k, rfl⟩
  | cons c cs ih =>
    obtain ⟨hc, hcs⟩ := canTake_cons.mp ht
    rw [deriveSteps_cons] at hv ⊢
    have ho := step_outcome k c
    cases hs : k.step c with
    | error e =>
      rw [hs] at ho hv
      cases ho with
      | needsSecret hn => exact absurd hc hn
      | invalidTweak => exact absurd rfl hv
      | tooDeep _ hd =>
        rw [hd, if_neg (by simp)]
        rfl
    | ok next =>
      rw [hs] at hv
      -- one step deeper and one step less to go: the sum stays
      have hn := (step_descends hs).1
      have hrec := ih ((hn.canTake cs).mpr hcs) hv
      rwa [hn.depth, Nat.add_assoc, Nat.add_comm 1] at hrec

/-- Without invalid tweaks, a path can be followed exactly if it keeps within the depth limit and
the key holds what its steps need. -/
theorem exists_deriveSteps_iff {k : ExtendedKey} {cs : List ChildNumber}
    (hv : k.deriveSteps cs ≠ .error .invalidTweak) :
    (∃ d, k.deriveSteps cs = .ok d) ↔ k.depth.toNat + cs.length ≤ 255 ∧ k.CanTake cs := by
  constructor
  · rintro ⟨d, h⟩
    obtain ⟨hd, ht⟩ := deriveSteps_descends h
    have hlt := d.depth.toNat_lt
    rw [hd.depth] at hlt
    exact ⟨by omega, ht⟩
  · rintro ⟨hle, ht⟩
    have h := deriveSteps_of_canTake ht hv
    rwa [if_pos hle] at h

def sampleRoot : ExtendedKey where
  kind := .main
  depth := 0
  parent := Bytes.zero 4
  child := .zero
  chainCode := Bytes.zero 32
  material := .secret ⟨1, by decide, by decide⟩

theorem sampleRoot_derives :
    (sampleRoot.deriveSteps [.zero, .zero]).isOk = true ∧
      (sampleRoot.deriveSteps [⟨1, false, by decide⟩, .zero]).isOk = true := by
  decide +kernel

theorem sampleRoot_derives_hardened :
    (sampleRoot.deriveSteps [⟨84, true, by decide⟩]).isOk = true := by
  decide +kernel

end ExtendedKey

end WalletRecovery
