import WalletRecovery.Rescan.Height
import Mathlib.Tactic.Common
import Mathlib.Order.Lattice

/-! # Estimated heights

The margin moves a birthday back by at most two days, so it lowers the height by at most the blocks
of two days, and never raises it. -/

namespace WalletRecovery

theorem Instant.seconds_of_ofParts? {seconds : ℤ} {nanos : ℕ} {t : Instant}
    (h : ofParts? seconds nanos = some t) : t.seconds = seconds := by
  unfold ofParts? at h
  split at h
  · obtain rfl := Option.some.inj h
    rfl
  · cases h

/-- An earlier instant lies back by the given distance, up to a leap second. -/
theorem Instant.seconds_of_earlier? {t u : Instant} {seconds : ℕ} (hpos : 0 < seconds)
    (h : t.earlier? seconds = some u) :
    u.seconds ≤ t.seconds ∧ t.seconds ≤ u.seconds + seconds := by
  unfold earlier? at h
  split at h
  · rw [seconds_of_ofParts? h]
    omega
  · rw [seconds_of_ofParts? h]
    omega

namespace Height

theorem toNat_ofElapsed (seconds : ℤ) :
    (ofElapsed seconds).toNat = min (seconds / 600).toNat greatest := by
  unfold ofElapsed
  split
  · have hle : (seconds / 600).toNat = 0 := by omega
    rw [hle]
    rfl
  · have hlt : min (seconds / 600).toNat greatest < 2 ^ 32 :=
      Nat.lt_of_le_of_lt (Nat.min_le_right _ _) (by decide)
    exact UInt32.toNat_ofNat_of_lt' hlt

theorem ofElapsed_mono {a b : ℤ} (h : a ≤ b) : ofElapsed a ≤ ofElapsed b := by
  rw [UInt32.le_iff_toNat_le, toNat_ofElapsed, toNat_ofElapsed]
  omega

theorem ofElapsed_eq_zero_iff (seconds : ℤ) : ofElapsed seconds = 0 ↔ seconds < 600 := by
  rw [← UInt32.toNat_inj, toNat_ofElapsed]
  change min (seconds / 600).toNat 0xffffffff = 0 ↔ _
  omega

theorem estimate_of_regular {n : Network} {genesis : ℤ} (h : pace n = .regular genesis)
    (t : Instant) : estimate n t = .ok (ofElapsed (t.seconds - genesis)) := by
  simp only [estimate, h]

/-- On a network with regular blocks both estimates exist. The margin does not raise the height,
and takes all of it only within the first two days. -/
theorem estimates_of_regular {n : Network} {genesis : ℤ} (h : pace n = .regular genesis)
    (t : Instant) :
    ∃ height margin, estimate n t = .ok height ∧ estimateWithMargin n t = .ok margin ∧
      margin ≤ height ∧ (margin = 0 → height.toNat ≤ 288) := by
  have hstart : ∃ u : Instant, (t.earlier? safetyMargin).getD t = u ∧
      u.seconds ≤ t.seconds ∧ t.seconds ≤ u.seconds + safetyMargin := by
    cases he : t.earlier? safetyMargin with
    | none =>
      -- too early to go back at all
      exact ⟨t, rfl, le_refl _, by omega⟩
    | some u => exact ⟨u, rfl, Instant.seconds_of_earlier? (by decide) he⟩
  obtain ⟨u, hu, hle, hge⟩ := hstart
  refine ⟨_, ofElapsed (u.seconds - genesis), estimate_of_regular h t, ?_,
    ofElapsed_mono (by omega), ?_⟩
  · rw [estimateWithMargin, hu]
    exact estimate_of_regular h u
  · rw [ofElapsed_eq_zero_iff, toNat_ofElapsed]
    intro hlt
    change t.seconds ≤ u.seconds + 172800 at hge
    omega

end Height

end WalletRecovery
