import WalletRecovery.Proofs.Settings.Resolution

/-! # Empty texts in settings

An empty text stands for a missing one when settings are resolved, but not when they are laid over
each other: there it hides the text below it. -/

namespace WalletRecovery.Settings

/-- The settings with nothing in place of empty texts. -/
def cleared (s : Settings) : Settings :=
  { s with
    format := s.format.filter (· ≠ "")
    derivationPath := s.derivationPath.filter (· ≠ "") }

variable {lower upper : Settings}

theorem filter_ne_empty {text : Option String} (h : text ≠ some "") :
    text.filter (· ≠ "") = text := by
  cases text with
  | none => rfl
  | some t =>
    have ht : t ≠ "" := fun he => h (by rw [he])
    simp [ht]

theorem filter_empty : (some "").filter (· ≠ "") = none := by
  decide

theorem strategy_overlay_cleared (h : upper.format ≠ some "") :
    (lower.overlay upper.cleared).strategy = (lower.overlay upper).strategy := by
  simp only [strategy, overlay, cleared, filter_ne_empty h]

theorem pathText_overlay_cleared (h : upper.derivationPath ≠ some "") :
    (lower.overlay upper.cleared).pathText = (lower.overlay upper).pathText := by
  simp only [pathText, overlay, cleared, filter_ne_empty h]

theorem strategy_overlay_empty (lower : Settings) (h : upper.format = some "") :
    (lower.overlay upper).strategy = .directImport ∧
      (lower.overlay upper.cleared).strategy = lower.strategy := by
  constructor
  · have hs : (lower.overlay upper).strategy = Strategy.ofSelector "" := by
      simp [strategy, overlay, h]
    rw [hs]
    decide
  · simp only [strategy, overlay, cleared, h, filter_empty, Option.none_or]

theorem pathText_overlay_empty (lower : Settings) (h : upper.derivationPath = some "") :
    (lower.overlay upper).pathText = assumedPath ∧
      (lower.overlay upper.cleared).pathText = lower.pathText := by
  constructor
  · simp [pathText, overlay, h]
  · simp only [pathText, overlay, cleared, h, filter_empty, Option.none_or]

/-- Clearing the empty texts of upper settings leaves the outcome as it is exactly if an empty path
lies over a well-formed one, which is the assumed one or there is no height, and an empty format
lies over the first one or there is no plan. -/
theorem resolve_overlay_cleared_iff (lower upper : Settings) (n : Network) :
    (lower.overlay upper.cleared).resolve n = (lower.overlay upper).resolve n ↔
      (upper.derivationPath = some "" →
        ∃ p, DerivationPath.parse lower.pathText = .ok p ∧
          (DerivationPath.parse assumedPath = .ok p ∨
            ∃ e, (lower.overlay upper).rescan n = .error e)) ∧
      (upper.format = some "" →
        lower.strategy = .directImport ∨ ∃ e, (lower.overlay upper).resolve n = .error e) := by
  have hcommon : (lower.overlay upper.cleared).resolve n = (lower.overlay upper).resolve n ↔ _ :=
    resolve_eq_resolve_iff rfl rfl
  rw [hcommon]
  apply and_congr
  · by_cases hp : upper.derivationPath = some ""
    · obtain ⟨hupper, hlower⟩ := pathText_overlay_empty lower hp
      obtain ⟨q, hq⟩ := parse_assumedPath
      rw [hupper, hlower, hq]
      constructor
      · rintro (heq | ⟨p, -, e, hlow, -, hr⟩) -
        · exact ⟨q, heq, Or.inl rfl⟩
        · exact ⟨p, hlow, Or.inr ⟨e, hr⟩⟩
      · intro h
        obtain ⟨p, hlow, heq | ⟨e, hr⟩⟩ := h hp
        · exact Or.inl (hlow.trans heq.symm)
        · exact Or.inr ⟨p, q, e, hlow, rfl, hr⟩
    · simp [hp, pathText_overlay_cleared hp]
  · by_cases hf : upper.format = some ""
    · obtain ⟨hupper, hlower⟩ := strategy_overlay_empty lower hf
      simp [hf, hupper, hlower]
    · simp [hf, strategy_overlay_cleared hf]

/-- An empty format over the watch-only one exports secrets, and an empty path over another one
moves the account. -/
theorem resolve_overlay_empty :
    let lower : Settings :=
      { format := some "bitcoin-cli-watchonly", derivationPath := some "m/44'/0'/0'" }
    let upper : Settings := { format := some "", derivationPath := some "" }
    let plan (strategy : Strategy) (purpose : ChildNumber) : Plan := {
      strategy := strategy
      derivationPath := ⟨[purpose, ⟨0, true, by decide⟩, ⟨0, true, by decide⟩]⟩
      recoveryWindow := 2500
      rescanFrom := 500000
      rescanSource := .assumed }
    (lower.overlay upper.cleared).resolve .bitcoin ≠ (lower.overlay upper).resolve .bitcoin ∧
      (lower.overlay upper.cleared).resolve .bitcoin =
        .ok (plan .watchOnlyImport ⟨44, true, by decide⟩) ∧
      (lower.overlay upper).resolve .bitcoin =
        .ok (plan .directImport ⟨84, true, by decide⟩) := by
  decide +kernel

end WalletRecovery.Settings
