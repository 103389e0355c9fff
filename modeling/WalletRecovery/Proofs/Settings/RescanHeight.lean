import WalletRecovery.Proofs.Rescan.Height
import WalletRecovery.Proofs.Settings.Resolution

/-! # The height of a plan

A birthday gives the height with the margin taken off, as long as anything is left of it. A height
of zero counts as unknown, so the assumed height takes its place. -/

namespace WalletRecovery.Settings

variable {s : Settings} {n : Network} {t : Instant}

/-- A height comes from the birthday exactly if the estimate with the margin is not zero. -/
theorem rescan_of_birthday {margin : UInt32} (h0 : s.rescanFrom = 0) (hb : s.birthday = some t)
    (hm : Height.estimateWithMargin n t = .ok margin) :
    s.rescan n =
      .ok (if margin = 0 then (assumedHeight, .assumed) else (margin, .birthday)) := by
  simp only [rescan, h0, hb, hm]
  rfl

theorem pace_of_known (hn : n = .bitcoin ∨ n = .testnet) :
    ∃ genesis, Height.pace n = .regular genesis := by
  rcases hn with rfl | rfl
  · exact ⟨_, rfl⟩
  · exact ⟨_, rfl⟩

/-- A birthday makes the rescan start at the estimate with the margin, and so not behind the height
estimated for the birthday itself, unless the margin leaves nothing of that height. Then the plan
starts at the assumed height, which is behind it. -/
theorem rescanFrom_le_estimate_iff {plan : Plan} (hn : n = .bitcoin ∨ n = .testnet)
    (h0 : s.rescanFrom = 0) (hb : s.birthday = some t) (h : s.resolve n = .ok plan) :
    ∃ height margin, Height.estimate n t = .ok height ∧
      Height.estimateWithMargin n t = .ok margin ∧ margin ≤ height ∧
      (margin ≠ 0 → plan.rescanFrom = margin ∧ plan.rescanSource = .birthday) ∧
      (margin = 0 → plan.rescanFrom = assumedHeight ∧ plan.rescanSource = .assumed) ∧
      (plan.rescanFrom ≤ height ↔ margin ≠ 0) := by
  obtain ⟨genesis, hpace⟩ := pace_of_known hn
  obtain ⟨height, margin, hh, hm, hle, hzero⟩ := Height.estimates_of_regular hpace t
  obtain ⟨-, hr, -, -⟩ := resolve_eq_ok h
  rw [rescan_of_birthday h0 hb hm] at hr
  refine ⟨height, margin, hh, hm, hle, ?_⟩
  by_cases hz : margin = 0
  · rw [if_pos hz] at hr
    obtain ⟨hfrom, hsource⟩ := Prod.mk.inj (Except.ok.inj hr)
    have hbehind : ¬ plan.rescanFrom ≤ height := by
      rw [← hfrom, UInt32.le_iff_toNat_le]
      have hsmall := hzero hz
      change ¬ 500000 ≤ height.toNat
      omega
    exact ⟨fun hne => absurd hz hne, fun _ => ⟨hfrom.symm, hsource.symm⟩,
      iff_of_false hbehind (not_not_intro hz)⟩
  · rw [if_neg hz] at hr
    obtain ⟨hfrom, hsource⟩ := Prod.mk.inj (Except.ok.inj hr)
    have hbefore : plan.rescanFrom ≤ height := hfrom ▸ hle
    exact ⟨fun _ => ⟨hfrom.symm, hsource.symm⟩, fun he => absurd he hz,
      iff_of_true hbefore hz⟩

/-- A wallet of the first of January 2020 is rescanned from two days before. -/
theorem rescanFrom_of_2020 :
    let t : Instant := ⟨1577836800, 0, by decide, by decide, by decide, by decide⟩
    let s : Settings := { birthday := some t }
    ∃ plan height, s.resolve .bitcoin = .ok plan ∧ plan.rescanFrom = 577762 ∧
      Height.estimate .bitcoin t = .ok height ∧ plan.rescanFrom ≤ height := by
  intro t s
  obtain ⟨p, hp⟩ := parse_assumedPath
  have hm : Height.estimateWithMargin .bitcoin t = .ok 577762 := by decide +kernel
  have h := resolve_of_ok (s := s) hp (rescan_of_birthday rfl rfl hm)
  obtain ⟨height, margin, hh, hm', -, -, -, hiff⟩ :=
    rescanFrom_le_estimate_iff (Or.inl rfl) rfl rfl h
  obtain rfl := Except.ok.inj (hm.symm.trans hm')
  exact ⟨_, height, h, rfl, hh, hiff.mpr (by decide)⟩

/-- A wallet of the fourth of January 2009 is rescanned from a block of 2017. -/
theorem estimate_lt_rescanFrom_of_2009 :
    let t : Instant := ⟨1231027200, 0, by decide, by decide, by decide, by decide⟩
    let s : Settings := { birthday := some t }
    ∃ plan, s.resolve .bitcoin = .ok plan ∧ Height.estimate .bitcoin t = .ok 34 ∧
      plan.rescanFrom = 500000 ∧ ¬ plan.rescanFrom ≤ 34 := by
  intro t s
  obtain ⟨p, hp⟩ := parse_assumedPath
  have hm : Height.estimateWithMargin .bitcoin t = .ok 0 := by decide +kernel
  have h := resolve_of_ok (s := s) hp (rescan_of_birthday rfl rfl hm)
  exact ⟨_, h, by decide +kernel, rfl, (by decide : ¬ assumedHeight ≤ 34)⟩

end WalletRecovery.Settings
