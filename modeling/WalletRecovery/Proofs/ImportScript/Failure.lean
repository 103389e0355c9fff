import WalletRecovery.Proofs.ImportScript.Entries

/-! # How scripts fail below alike roots

Two keys that hold a secret or not alike, and stand at the same depth, take the same steps, but
where a hash makes no child. So scripts below them fail alike. -/

namespace WalletRecovery

namespace ExtendedKey

/-- What the same steps come to below two keys: the same, unless one of them meets no child. -/
inductive DerivesAlike :
    Except DerivationError ExtendedKey → Except DerivationError ExtendedKey → Prop where
  | noLeft (r : Except DerivationError ExtendedKey) : DerivesAlike (.error .invalidTweak) r
  | noRight (r : Except DerivationError ExtendedKey) : DerivesAlike r (.error .invalidTweak)
  | failed (e : DerivationError) : DerivesAlike (.error e) (.error e)
  | derived {d d' : ExtendedKey} : d'.isPrivate = d.isPrivate → d'.depth = d.depth →
      DerivesAlike (.ok d) (.ok d')

variable {k k' : ExtendedKey}

theorem canTake_congr (hprivate : k'.isPrivate = k.isPrivate) (cs : List ChildNumber) :
    k'.CanTake cs ↔ k.CanTake cs := by
  rw [CanTake, CanTake, hprivate]

theorem step_alike (hprivate : k'.isPrivate = k.isPrivate) (hdepth : k'.depth = k.depth)
    (c : ChildNumber) : DerivesAlike (k.step c) (k'.step c) := by
  have hcan := canTake_congr hprivate [c]
  have hstep := k.step_outcome c
  have hstep' := k'.step_outcome c
  generalize k.step c = r at hstep
  generalize k'.step c = r' at hstep'
  cases hstep with
  | needsSecret hnot =>
    cases hstep' with
    | needsSecret => rw [hdepth]; exact .failed _
    | tooDeep htake | invalidTweak _ htake | taken _ _ htake => exact absurd (hcan.mp htake) hnot
  | tooDeep htake hdeep =>
    cases hstep' with
    | needsSecret hnot => exact absurd (hcan.mpr htake) hnot
    | tooDeep => exact .failed _
    | invalidTweak _ _ hnot | taken _ _ _ hnot => exact absurd (hdepth.trans hdeep) hnot
  | invalidTweak => exact .noLeft _
  | taken data m htake hnot _ hm =>
    cases hstep' with
    | needsSecret hnot' => exact absurd (hcan.mpr htake) hnot'
    | tooDeep _ hdeep => exact absurd (hdepth.symm.trans hdeep) hnot
    | invalidTweak => exact .noRight _
    | taken data' m' _ _ _ hm' =>
      refine .derived ?_ ?_
      · rw [isPrivate_childOf hm, isPrivate_childOf hm', hprivate]
      · rw [childOf, childOf, hdepth]

theorem deriveSteps_alike (hprivate : k'.isPrivate = k.isPrivate) (hdepth : k'.depth = k.depth)
    (cs : List ChildNumber) : DerivesAlike (k.deriveSteps cs) (k'.deriveSteps cs) := by
  induction cs generalizing k k' with
  | nil => exact .derived hprivate hdepth
  | cons c cs ih =>
    have hstep := step_alike hprivate hdepth c
    rw [deriveSteps_cons, deriveSteps_cons]
    generalize k.step c = r at hstep
    generalize k'.step c = r' at hstep
    cases hstep with
    | noLeft => exact .noLeft _
    | noRight => exact .noRight _
    | failed e => exact .failed e
    | derived hprivate hdepth => exact ih hprivate hdepth

end ExtendedKey

theorem mapError_eq_error_iff {ε ε' α : Type} {x : Except ε α} {f : ε → ε'} {e' : ε'} :
    x.mapError f = .error e' ↔ ∃ e, x = .error e ∧ f e = e' := by
  cases x <;> simp [Except.mapError]

theorem Strategy.line_error {s : Strategy} {r : Representation} {l : KeyLabel}
    {e : RepresentationError} (h : s.line r l = .error e) : e = .privateMaterialRequired := by
  have hexported {f : String → String} (h : r.exportedKey.map f = .error e) :
      e = .privateMaterialRequired := by
    rw [Representation.exportedKey] at h
    cases hwif : r.wif with
    | none =>
      rw [hwif] at h
      exact (Except.error.inj h).symm
    | some wif =>
      rw [hwif] at h
      cases h
  cases s with
  | directImport => exact hexported h
  | watchOnlyImport => cases h
  | bulkDump => exact hexported h

def ScriptError.meetsNoChild : ScriptError → Bool
  | derivation _ _ .invalidTweak => true
  | _ => false

namespace Job

variable {job : Job} {root : ExtendedKey} {b : Branch} {i : ℕ}

theorem eq_of_meetsNoChild {e : ScriptError} (h : job.keyLine b i = .error e)
    (hchild : e.meetsNoChild = true) : e = .derivation b i .invalidTweak := by
  have hkey := key?_of_keyLine h
  cases e with
  | derivation b' i' cause =>
    obtain ⟨rfl, rfl⟩ := Prod.mk.inj (Option.some.inj hkey)
    cases cause with
    | invalidTweak => rfl
    | privateMaterialRequired | depthLimit | indexOutOfRange => cases hchild
  | representation | sink => cases hchild

/-- Below another root that is alike, a key fails alike. -/
theorem keyLine_error_eq {e e' : ScriptError} (hprivate : root.isPrivate = job.root.isPrivate)
    (hdepth : root.depth = job.root.depth) (h : job.keyLine b i = .error e)
    (h' : ({ job with root } : Job).keyLine b i = .error e')
    (hchild : e'.meetsNoChild = e.meetsNoChild) : e' = e := by
  cases hc : e.meetsNoChild with
  | true =>
    rw [eq_of_meetsNoChild h hc, eq_of_meetsNoChild h' (hchild.trans hc)]
  | false =>
  rcases Nat.lt_or_ge i indexLimit with hi | hi
  · rw [keyLine_of_lt hi] at h h'
    dsimp only at h'
    have halike : ExtendedKey.DerivesAlike (job.root.derive _) (root.derive _) :=
      ExtendedKey.deriveSteps_alike hprivate hdepth
        (job.plan.derivationPath.extend [b.child, ⟨i, false, hi⟩]).steps
    generalize job.root.derive _ = r at h halike
    generalize root.derive _ = r' at h' halike
    cases halike with
    | noLeft =>
      obtain rfl := Except.error.inj h
      cases hc
    | noRight =>
      obtain rfl := Except.error.inj h'
      rw [hc] at hchild
      cases hchild
    | failed cause => exact (Except.error.inj h').symm.trans (Except.error.inj h)
    | derived =>
      -- both keys are there, so the lines lack the private key
      obtain ⟨cause, hcause, rfl⟩ := mapError_eq_error_iff.mp h
      obtain ⟨cause', hcause', rfl⟩ := mapError_eq_error_iff.mp h'
      rw [Strategy.line_error hcause, Strategy.line_error hcause']
  · rw [keyLine_of_le hi] at h h'
    exact (Except.error.inj h').symm.trans (Except.error.inj h)

end Job

end WalletRecovery
