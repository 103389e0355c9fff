import WalletRecovery.Proofs.Key.Derivation

/-! # The course of a derivation

A derivation stops at the first step that cannot be taken and reports that step. Otherwise its last
step names the child and the parent, and a path in two parts is followed part by part. -/

namespace WalletRecovery.ExtendedKey

variable {k d : ExtendedKey} {c : ChildNumber} {cs : List ChildNumber} {e : DerivationError}

theorem origin_of_deriveSteps (h : k.deriveSteps (cs ++ [c]) = .ok d) :
    d.child = c ∧ ∃ parent, k.deriveSteps cs = .ok parent ∧ d.parent = parent.fingerprint := by
  rw [deriveSteps_append] at h
  obtain ⟨parent, hparent, h⟩ := ok_of_bind_eq_ok h
  rw [deriveSteps_cons] at h
  obtain ⟨child, hstep, h⟩ := ok_of_bind_eq_ok h
  obtain rfl := Except.ok.inj h
  have ho := step_outcome parent c
  rw [hstep] at ho
  cases ho with
  | taken => exact ⟨rfl, parent, hparent, rfl⟩

/-- What a derivation reports is reported by the first step that is not taken. -/
theorem deriveSteps_eq_error_iff :
    k.deriveSteps cs = .error e ↔
      ∃ before c behind d, cs = before ++ c :: behind ∧ k.deriveSteps before = .ok d ∧
        d.step c = .error e := by
  constructor
  · intro h
    induction cs generalizing k with
    | nil => cases h
    | cons c cs ih =>
      rw [deriveSteps_cons] at h
      cases hstep : k.step c with
      | error e' =>
        rw [hstep] at h
        obtain rfl := Except.error.inj h
        exact ⟨[], c, cs, k, rfl, rfl, hstep⟩
      | ok next =>
        rw [hstep] at h
        obtain ⟨before, c', behind, d, rfl, hbefore, hd⟩ := ih h
        refine ⟨c :: before, c', behind, d, rfl, ?_, hd⟩
        rw [deriveSteps_cons, hstep]
        exact hbefore
  · rintro ⟨before, c, behind, d, rfl, hbefore, hd⟩
    rw [deriveSteps_append, hbefore]
    change d.deriveSteps (c :: behind) = _
    rw [deriveSteps_cons, hd]
    rfl

/-- A missing secret is found before the depth is looked at. -/
theorem step_eq_error_iff (hv : e ≠ .invalidTweak) :
    k.step c = .error e ↔
      if k.isPrivate = false ∧ c.hardened = true then e = .privateMaterialRequired c k.depth
      else k.depth = 255 ∧ e = .depthLimit := by
  have hlacks : ¬ k.CanTake [c] ↔ k.isPrivate = false ∧ c.hardened = true := by
    simp [CanTake]
  have ho := step_outcome k c
  generalize k.step c = r at ho ⊢
  split
  · next hn =>
    cases ho with
    | needsSecret => rw [Except.error.injEq, eq_comm]
    | tooDeep ht | invalidTweak _ ht | taken _ _ ht => exact absurd ht (hlacks.mpr hn)
  · next hn =>
    cases ho with
    | needsSecret hneeds => exact absurd (hlacks.mp hneeds) hn
    | tooDeep _ hd => simp [hd, eq_comm]
    | invalidTweak _ _ hd => simp [hd, hv.symm]
    | taken _ _ _ hd => simp [hd]

/-- The whole course of a derivation that meets no invalid tweak. It succeeds exactly if the depth
suffices and the key holds what hardened steps need. The key at its end tells where it comes from.
A path in two parts is followed part by part, whatever happens on the way. A derivation that fails
reports its first step that cannot be taken: a missing secret if it is missing, also at the greatest
depth, and the depth otherwise. -/
theorem derive_course (k : ExtendedKey) (p : DerivationPath)
    (hv : k.derive p ≠ .error .invalidTweak) :
    ((∃ d, k.derive p = .ok d) ↔
      k.depth.toNat + p.length ≤ 255 ∧
        (k.isPrivate = true ∨ ∀ c ∈ p.steps, c.hardened = false)) ∧
    (∀ d, k.derive p = .ok d →
      d.depth.toNat = k.depth.toNat + p.length ∧ d.kind = k.kind ∧ d.isPrivate = k.isPrivate ∧
        ∀ q c, p = q.child c → d.child = c ∧
          ∃ parent, k.derive q = .ok parent ∧ d.parent = parent.fingerprint) ∧
    (∀ q r : DerivationPath, k.derive (q.extend r.steps) = k.derive q >>= fun d => d.derive r) ∧
    (∀ e, k.derive p = .error e ↔
      ∃ before c behind d, p.steps = before ++ c :: behind ∧ k.derive ⟨before⟩ = .ok d ∧
        d.depth.toNat = k.depth.toNat + before.length ∧
        if k.isPrivate = false ∧ c.hardened = true then e = .privateMaterialRequired c d.depth
        else d.depth = 255 ∧ e = .depthLimit) := by
  refine ⟨exists_deriveSteps_iff hv, ?_, fun q r => deriveSteps_append k q.steps r.steps, ?_⟩
  · intro d hd
    obtain ⟨hdepth, hkind, hprivate⟩ := (deriveSteps_descends hd).1
    refine ⟨hdepth, hkind, hprivate, ?_⟩
    rintro q c rfl
    exact origin_of_deriveSteps hd
  · intro e
    constructor
    · intro he
      have hne : e ≠ .invalidTweak := fun h => hv (h ▸ he)
      obtain ⟨before, c, behind, d, hsteps, hbefore, hstep⟩ := deriveSteps_eq_error_iff.mp he
      have hdescends := (deriveSteps_descends hbefore).1
      rw [step_eq_error_iff hne, hdescends.isPrivate] at hstep
      exact ⟨before, c, behind, d, hsteps, hbefore, hdescends.depth, hstep⟩
    · rintro ⟨before, c, behind, d, hsteps, hbefore, -, hreport⟩
      have hne : e ≠ .invalidTweak := by
        rintro rfl
        split at hreport
        · cases hreport
        · cases hreport.2
      refine deriveSteps_eq_error_iff.mpr ⟨before, c, behind, d, hsteps, hbefore, ?_⟩
      rwa [step_eq_error_iff hne, (deriveSteps_descends hbefore).1.isPrivate]

/-- A public key one step above the greatest depth. -/
def deepPublic : ExtendedKey :=
  { sampleRoot.neuter with depth := 254 }

/-- Its child is the last one. A hardened grandchild is too deep and needs a secret, and it is the
secret that is missed. -/
theorem derive_course_deepPublic :
    let hardened : ChildNumber := ⟨1, true, by decide⟩
    let p : DerivationPath := ⟨[.zero, hardened, .zero]⟩
    (∃ d, deepPublic.derive ⟨[.zero]⟩ = .ok d) ∧ deepPublic.derive p ≠ .error .invalidTweak ∧
      deepPublic.derive p = .error (.privateMaterialRequired hardened 255) := by
  intro hardened p
  have hvalid : deepPublic.derive ⟨[.zero]⟩ ≠ .error .invalidTweak := by decide +kernel
  have hvalid' : deepPublic.derive p ≠ .error .invalidTweak := by decide +kernel
  obtain ⟨hok, hplace, -, -⟩ := derive_course deepPublic ⟨[.zero]⟩ hvalid
  obtain ⟨-, -, -, herror⟩ := derive_course deepPublic p hvalid'
  obtain ⟨d, hd⟩ := hok.mpr (by decide)
  have hdepth : d.depth = 255 := UInt8.toNat.inj (hplace d hd).1
  refine ⟨⟨d, hd⟩, hvalid', (herror _).mpr ?_⟩
  refine ⟨[.zero], hardened, [.zero], d, rfl, hd, (hplace d hd).1, ?_⟩
  rw [if_pos (by decide), hdepth]

end WalletRecovery.ExtendedKey
