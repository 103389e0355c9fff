import WalletRecovery.Settings.Plan
import Mathlib.Data.List.Basic

/-! # How settings become a plan

Settings resolve in one of three ways: the path is malformed, or it is not and there is no height,
or there is a plan. -/

namespace WalletRecovery.Settings

variable {s : Settings} {n : Network}

theorem resolve_of_malformed {e : PathError} (h : DerivationPath.parse s.pathText = .error e) :
    s.resolve n = .error (.malformedPath e) := by
  simp only [resolve, h]

theorem resolve_of_noHeight {p : DerivationPath} {e : HeightError}
    (h : DerivationPath.parse s.pathText = .ok p) (hr : s.rescan n = .error e) :
    s.resolve n = .error (.noHeight e) := by
  simp only [resolve, h, hr]

theorem resolve_of_ok {p : DerivationPath} {height : UInt32} {source : RescanSource}
    (h : DerivationPath.parse s.pathText = .ok p) (hr : s.rescan n = .ok (height, source)) :
    s.resolve n = .ok {
      strategy := s.strategy
      derivationPath := p
      recoveryWindow := s.window
      rescanFrom := height
      rescanSource := source } := by
  simp only [resolve, h, hr]

theorem resolve_eq_ok {plan : Plan} (h : s.resolve n = .ok plan) :
    DerivationPath.parse s.pathText = .ok plan.derivationPath ∧
      s.rescan n = .ok (plan.rescanFrom, plan.rescanSource) ∧
      plan.strategy = s.strategy ∧ plan.recoveryWindow = s.window := by
  cases hp : DerivationPath.parse s.pathText with
  | error e => rw [resolve_of_malformed hp] at h; cases h
  | ok p =>
    rcases hr : s.rescan n with e | ⟨height, source⟩
    · rw [resolve_of_noHeight hp hr] at h
      cases h
    · rw [resolve_of_ok hp hr] at h
      obtain rfl := Except.ok.inj h
      exact ⟨rfl, rfl, rfl, rfl⟩

theorem parse_assumedPath : ∃ p, DerivationPath.parse assumedPath = .ok p :=
  ⟨⟨[⟨84, true, by decide⟩, ⟨0, true, by decide⟩, ⟨0, true, by decide⟩]⟩, by decide +kernel⟩

/-- Settings that agree on the window and the height make the same plan exactly if they fail alike
or agree on the path and the format too. -/
theorem resolve_eq_resolve_iff {t : Settings} (hw : s.window = t.window)
    (hr : s.rescan n = t.rescan n) :
    s.resolve n = t.resolve n ↔
      (DerivationPath.parse s.pathText = DerivationPath.parse t.pathText ∨
        ∃ p q e, DerivationPath.parse s.pathText = .ok p ∧
          DerivationPath.parse t.pathText = .ok q ∧ t.rescan n = .error e) ∧
      (s.strategy = t.strategy ∨ ∃ e, t.resolve n = .error e) := by
  cases hs : DerivationPath.parse s.pathText with
  | error e =>
    cases ht : DerivationPath.parse t.pathText with
    | error e' => simp [resolve_of_malformed hs, resolve_of_malformed ht]
    | ok q =>
      rcases hrt : t.rescan n with e' | ⟨height, source⟩
      · simp [resolve_of_malformed hs, resolve_of_noHeight ht hrt]
      · simp [resolve_of_malformed hs, resolve_of_ok ht hrt]
  | ok p =>
    rcases hrt : t.rescan n with e' | ⟨height, source⟩
    · rw [hrt] at hr
      cases ht : DerivationPath.parse t.pathText with
      | error e => simp [resolve_of_noHeight hs hr, resolve_of_malformed ht]
      | ok q => simp [resolve_of_noHeight hs hr, resolve_of_noHeight ht hrt]
    · rw [hrt] at hr
      cases ht : DerivationPath.parse t.pathText with
      | error e => simp [resolve_of_ok hs hr, resolve_of_malformed ht]
      | ok q => simp [resolve_of_ok hs hr, resolve_of_ok ht hrt, hw, and_comm]

end WalletRecovery.Settings
