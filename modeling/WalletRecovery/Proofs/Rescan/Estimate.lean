import WalletRecovery.Proofs.Rescan.Height

/-! # Exact heights

A height is the number of whole block intervals since the first block, held within the range of
heights. The margin is a whole number of intervals and can be taken off afterwards. Two things could
spoil this and do not: at the beginning of the calendar the margin is not taken off, but heights are
zero there, and out of a leap second it leads one second less far back, but blocks are counted from
seconds that begin no minute. -/

namespace WalletRecovery

namespace Instant

theorem seconds_bounds (t : Instant) :
    -8334601228800 ≤ t.seconds ∧ t.seconds < 8210266876800 := by
  have hfirst : Date.dayNumber ⟨Date.firstYear, 1, 1⟩ * 86400 = -8334601228800 := by decide
  have hlast : Date.dayNumber ⟨Date.lastYear + 1, 1, 1⟩ * 86400 = 8210266876800 := by decide
  exact ⟨hfirst ▸ t.first_le, hlast ▸ t.le_last⟩

theorem ofParts?_cases {seconds : ℤ} {nanos : ℕ} (hlast : seconds < 8210266876800)
    (hnanos : nanos < nanosPerSecond) :
    (ofParts? seconds nanos = none ∧ seconds < -8334601228800) ∨
      ∃ u, ofParts? seconds nanos = some u ∧ u.seconds = seconds := by
  by_cases hfirst : -8334601228800 ≤ seconds
  · right
    have hparts : (Date.dayNumber ⟨Date.firstYear, 1, 1⟩ * 86400 ≤ seconds ∧
        seconds < Date.dayNumber ⟨Date.lastYear + 1, 1, 1⟩ * 86400) ∧
        nanos < 2 * nanosPerSecond ∧ (nanosPerSecond ≤ nanos → seconds % 60 = 59) :=
      ⟨⟨hfirst, hlast⟩, by omega, fun h => absurd h (by omega)⟩
    exact ⟨_, dif_pos hparts, rfl⟩
  · left
    have hparts : ¬ ((Date.dayNumber ⟨Date.firstYear, 1, 1⟩ * 86400 ≤ seconds ∧
        seconds < Date.dayNumber ⟨Date.lastYear + 1, 1, 1⟩ * 86400) ∧
        nanos < 2 * nanosPerSecond ∧ (nanosPerSecond ≤ nanos → seconds % 60 = 59)) :=
      fun h => hfirst h.1.1
    exact ⟨dif_neg hparts, by omega⟩

/-- The second to which a way back leads. -/
inductive WayBack (t : Instant) (distance : ℕ) : ℤ → Prop where
  | plain : WayBack t distance (t.seconds - distance)
  | outOfLeap : t.seconds % 60 = 59 → WayBack t distance (t.seconds + 1 - distance)
  | unchanged : t.seconds < -8334601228800 + distance → WayBack t distance t.seconds

theorem wayBack_earlier? (t : Instant) {distance : ℕ} (hpos : 0 < distance) :
    WayBack t distance ((t.earlier? distance).getD t).seconds := by
  have hlast := t.seconds_bounds.2
  have hnanos := t.nanos_lt
  rw [earlier?]
  split
  · next hleap =>
    rcases ofParts?_cases (show t.seconds + 1 - distance < 8210266876800 by omega)
      (show t.nanos - nanosPerSecond < nanosPerSecond by omega) with ⟨hnone, hlt⟩ | ⟨u, hu, hseconds⟩
    · rw [hnone]
      exact .unchanged (by omega)
    · rw [hu, Option.getD_some, hseconds]
      exact .outOfLeap (t.leap hleap.1)
  · next hleap =>
    rcases ofParts?_cases (show t.seconds - distance < 8210266876800 by omega)
      (show t.nanos < nanosPerSecond by omega) with ⟨hnone, hlt⟩ | ⟨u, hu, hseconds⟩
    · rw [hnone]
      exact .unchanged (by omega)
    · rw [hu, Option.getD_some, hseconds]
      exact .plain

end Instant

namespace Height

def clamp (n : ℤ) : ℤ :=
  max 0 (min n greatest)

theorem clamp_mono {m n : ℤ} (h : m ≤ n) : clamp m ≤ clamp n := by
  simp only [clamp]
  omega

theorem toNat_ofElapsed_eq_clamp (seconds : ℤ) :
    ((ofElapsed seconds).toNat : ℤ) = clamp (seconds / 600) := by
  rw [toNat_ofElapsed, clamp]
  omega

theorem le_of_clamp {a b : UInt32} {m n : ℤ} (ha : (a.toNat : ℤ) = clamp m)
    (hb : (b.toNat : ℤ) = clamp n) (h : m ≤ n) : a ≤ b := by
  have hle := clamp_mono h
  rw [UInt32.le_iff_toNat_le]
  omega

/-- The height at the end of the way back is lower by the blocks of two days, or as low as it
can be. -/
theorem clamp_of_wayBack {t : Instant} {start genesis : ℤ} (hpos : 0 < genesis)
    (hminute : genesis % 60 ≠ 0) (h : t.WayBack safetyMargin start) :
    clamp ((start - genesis) / 600) = clamp ((t.seconds - genesis) / 600 - 288) := by
  have hmargin : (safetyMargin : ℤ) = 172800 := rfl
  cases h with
  | plain =>
    rw [hmargin]
    congr 1
    omega
  | outOfLeap hsecond =>
    -- no block is due at the end of a minute
    rw [hmargin]
    congr 1
    omega
  | unchanged hlt =>
    rw [hmargin] at hlt
    simp only [clamp]
    omega

/-- The integers that are formed on the way to the heights of an instant. -/
def intermediates (genesis : ℤ) (t : Instant) : List ℤ :=
  let start := (t.earlier? safetyMargin).getD t
  [t.seconds, t.seconds - genesis, (t.seconds - genesis) / blockInterval,
    t.seconds - safetyMargin, t.seconds + 1 - safetyMargin, start.seconds,
    start.seconds - genesis, (start.seconds - genesis) / blockInterval]

def Fits64 (n : ℤ) : Prop :=
  -0x8000000000000000 ≤ n ∧ n < 0x8000000000000000

theorem fits64_intermediates {genesis : ℤ} (hpos : 0 < genesis) (hlt : genesis < 0x100000000)
    (t : Instant) : ∀ m ∈ intermediates genesis t, Fits64 m := by
  have ht := t.seconds_bounds
  have hstart := ((t.earlier? safetyMargin).getD t).seconds_bounds
  have hmargin : (safetyMargin : ℤ) = 172800 := rfl
  simp only [intermediates, List.forall_mem_cons, List.not_mem_nil, false_imp_iff, implies_true,
    and_true, Fits64, hmargin, blockInterval]
  omega

theorem genesis_bounds {n : Network} {genesis : ℤ}
    (h : (n, genesis) ∈ [(.bitcoin, 1231006505), (.testnet, (1296688602 : ℤ))]) :
    pace n = .regular genesis ∧ 0 < genesis ∧ genesis < 0x100000000 ∧ genesis % 60 ≠ 0 := by
  simp only [List.mem_cons, List.not_mem_nil, or_false, Prod.mk.injEq] at h
  rcases h with ⟨rfl, rfl⟩ | ⟨rfl, rfl⟩
  · exact ⟨rfl, by decide, by decide, by decide⟩
  · exact ⟨rfl, by decide, by decide, by decide⟩

/-- Both heights of every instant, exactly. Where blocks come regularly, they are the number of
whole intervals since the first block, the one with 288 intervals less, within the range of heights.
So both grow with time, the one with the margin is the lower, and all that comes up in between fits
into 64 bits. Where heights have nothing to do with time both are zero, and nothing is known of any
other network. -/
theorem estimates_exact :
    (∀ n genesis, (n, genesis) ∈ [(.bitcoin, 1231006505), (.testnet, 1296688602)] →
      ∃ height margin : Instant → UInt32,
        (∀ t, estimate n t = .ok (height t) ∧ estimateWithMargin n t = .ok (margin t) ∧
          ((height t).toNat : ℤ) = clamp ((t.seconds - genesis) / 600) ∧
          ((margin t).toNat : ℤ) = clamp ((t.seconds - genesis) / 600 - 288) ∧
          margin t ≤ height t ∧ ∀ m ∈ intermediates genesis t, Fits64 m) ∧
        ∀ t u, t.seconds ≤ u.seconds → height t ≤ height u ∧ margin t ≤ margin u) ∧
    (∀ t, estimate .regtest t = .ok 0 ∧ estimateWithMargin .regtest t = .ok 0) ∧
    ∀ n t, n ∉ [.bitcoin, .testnet, .regtest] →
      estimate n t = .error (.unknownNetwork n) ∧
        estimateWithMargin n t = .error (.unknownNetwork n) := by
  refine ⟨?_, fun t => ⟨rfl, rfl⟩, ?_⟩
  · intro n genesis hn
    obtain ⟨hpace, hpos, hlt, hminute⟩ := genesis_bounds hn
    have hheight (t : Instant) := toNat_ofElapsed_eq_clamp (t.seconds - genesis)
    have hmargin (t : Instant) :
        ((ofElapsed (((t.earlier? safetyMargin).getD t).seconds - genesis)).toNat : ℤ) =
          clamp ((t.seconds - genesis) / 600 - 288) := by
      rw [toNat_ofElapsed_eq_clamp]
      exact clamp_of_wayBack hpos hminute (t.wayBack_earlier? (by decide))
    refine ⟨fun t => ofElapsed (t.seconds - genesis),
      fun t => ofElapsed (((t.earlier? safetyMargin).getD t).seconds - genesis), ?_, ?_⟩
    · intro t
      exact ⟨estimate_of_regular hpace t, estimate_of_regular hpace _, hheight t, hmargin t,
        le_of_clamp (hmargin t) (hheight t) (by omega), fits64_intermediates hpos hlt t⟩
    · intro t u hle
      exact ⟨le_of_clamp (hheight t) (hheight u) (by omega),
        le_of_clamp (hmargin t) (hmargin u) (by omega)⟩
  · intro n t hn
    cases n with
    | bitcoin | testnet | regtest => simp at hn
    | testnet4 | signet => exact ⟨rfl, rfl⟩

/-- The leap second at the end of 2016, out of which the way back is shorter by a second. -/
theorem estimates_exact_leapSecond :
    let t : Instant := ⟨1483228799, 1500000000, by decide, by decide, by decide, by decide⟩
    estimate .bitcoin t = .ok 420370 ∧ estimateWithMargin .bitcoin t = .ok 420082 := by
  intro t
  obtain ⟨hregular, -, -⟩ := estimates_exact
  obtain ⟨height, margin, hall, -⟩ := hregular .bitcoin 1231006505 (by decide)
  obtain ⟨hestimate, hmargin, hheight, hmargin', -, -⟩ := hall t
  have h : height t = 420370 := UInt32.toNat.inj (Int.ofNat.inj hheight)
  have h' : margin t = 420082 := UInt32.toNat.inj (Int.ofNat.inj hmargin')
  exact ⟨h ▸ hestimate, h' ▸ hmargin⟩

end Height

end WalletRecovery
