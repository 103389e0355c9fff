import WalletRecovery.Proofs.CommandLine.Stage
import WalletRecovery.Proofs.Key.Walk
import WalletRecovery.Proofs.Settings.RescanHeight

/-! # The birthday of a run

A birthday from the command line or the console decides about the height of the plan only if neither
the command line nor the settings file gives a height: the sources are laid over each other setting
by setting before a height is preferred to a birthday. -/

namespace WalletRecovery

theorem ExtendedKey.parseRoot_text {k : ExtendedKey} {n : Network} (h : k.WellFormed)
    (hn : k.kind = n.kind) : parseRoot k.text n = .ok k := by
  simp only [parseRoot, h.parse_text, if_pos hn]

/-- A height from the settings file is preferred to a birthday from anywhere. -/
theorem Settings.rescan_overlay {file asked given : Settings} {n : Network} {t : Instant}
    {height : UInt32} (hasked : asked = { birthday := asked.birthday })
    (hgiven : given.rescanFrom = 0) (hbirthday : given.birthday.or asked.birthday = some t)
    (hheight : Height.estimateWithMargin n t = .ok height) (hne : height ≠ 0) :
    ((file.overlay asked).overlay given).rescan n =
      .ok (if file.rescanFrom = 0 then (height, .birthday) else (file.rescanFrom, .explicit)) := by
  have hfrom : ((file.overlay asked).overlay given).rescanFrom = file.rescanFrom := by
    rw [hasked]
    simp only [overlay, hgiven, if_true]
  have ht : ((file.overlay asked).overlay given).birthday = some t := by
    simp only [overlay, ← Option.or_assoc, hbirthday, Option.some_or]
  by_cases h0 : file.rescanFrom = 0
  · rw [rescan_of_birthday (hfrom.trans h0) ht hheight, if_neg hne, if_pos h0]
  · have hexplicit : ((file.overlay asked).overlay given).rescanFrom ≠ 0 := by
      rwa [hfrom]
    rw [rescan, if_pos hexplicit, hfrom, if_neg h0]

namespace CommandLine.Stage

variable {w : World}

theorem asked_of_root {a : Arguments} {root : ExtendedKey} {asked : Settings}
    (h : (Stage.root a).result w = .ok (root, asked)) : asked = { birthday := asked.birthday } := by
  rw [Stage.root] at h
  cases hk : a.rootKey with
  | some text =>
    simp only [hk, result_map_take] at h
    generalize (ExtendedKey.parseRoot text a.network).mapError RunError.rootKey = r at h
    cases r with
    | error e => cases h
    | ok key =>
      obtain ⟨-, rfl⟩ := Prod.mk.inj (Except.ok.inj h)
      rfl
  | none =>
    -- three stages go before: the questions for the key, its report, the question for the birthday
    simp only [hk, result_bind, result_pure] at h
    obtain ⟨key, -, h⟩ := ok_of_bind_eq_ok h
    obtain ⟨-, -, h⟩ := ok_of_bind_eq_ok h
    obtain ⟨birthday, -, h⟩ := ok_of_bind_eq_ok h
    obtain ⟨-, rfl⟩ := Prod.mk.inj (Except.ok.inj h)
    rfl

theorem root_of_text {a : Arguments} {text : String} {root : ExtendedKey}
    (ha : a.rootKey = some text) (hroot : ExtendedKey.parseRoot text a.network = .ok root)
    (w : World) : (Stage.root a).result w = .ok (root, {}) := by
  simp only [Stage.root, ha, result_map_take, hroot]
  rfl

theorem planned_of_sources {a : Arguments} {file asked : Settings} {root : ExtendedKey}
    (hfile : (fileSettings a.configFile).result w = .ok file)
    (hroot : (Stage.root a).result ((fileSettings a.configFile).rest w) = .ok (root, asked)) :
    (planned a).result w =
      ((((file.overlay asked).overlay a.settings).resolve a.network).mapError RunError.plan).map
        fun plan => ⟨root, a.network, plan⟩ := by
  rw [planned, result_bind_of_ok hfile, result_bind_of_ok hroot]
  dsimp only
  rw [result_bind, result_take]
  cases ((file.overlay asked).overlay a.settings).resolve a.network <;> rfl

/-- A birthday given for a run, that of the command line before that of the console, decides about
the height of its plan exactly if the settings file gives no height. Otherwise the height of the file
is taken. -/
theorem planned_of_birthday {a : Arguments} {file asked : Settings} {root : ExtendedKey}
    {t : Instant} {height : UInt32}
    (hfile : (fileSettings a.configFile).result w = .ok file)
    (hroot : (Stage.root a).result ((fileSettings a.configFile).rest w) = .ok (root, asked))
    (hgiven : a.settings.rescanFrom = 0)
    (hbirthday : a.settings.birthday.or asked.birthday = some t)
    (hheight : Height.estimateWithMargin a.network t = .ok height) (hne : height ≠ 0) :
    let pathText := ((file.overlay asked).overlay a.settings).pathText
    (∀ e, DerivationPath.parse pathText = .error e →
      (planned a).result w = .error (.plan (.malformedPath e))) ∧
    ∀ path, DerivationPath.parse pathText = .ok path →
      ∃ job, (planned a).result w = .ok job ∧ job.root = root ∧ job.network = a.network ∧
        job.plan.derivationPath = path ∧
        (file.rescanFrom ≠ 0 →
          job.plan.rescanFrom = file.rescanFrom ∧ job.plan.rescanSource = .explicit) ∧
        (job.plan.rescanFrom = height ∧ job.plan.rescanSource = .birthday ↔
          file.rescanFrom = 0) := by
  intro pathText
  have hrescan : ((file.overlay asked).overlay a.settings).rescan a.network = _ :=
    Settings.rescan_overlay (asked_of_root hroot) hgiven hbirthday hheight hne
  rw [planned_of_sources hfile hroot]
  constructor
  · intro e he
    rw [Settings.resolve_of_malformed he]
    rfl
  · intro path hpath
    by_cases h0 : file.rescanFrom = 0
    · rw [if_pos h0] at hrescan
      rw [Settings.resolve_of_ok hpath hrescan]
      exact ⟨_, rfl, rfl, rfl, rfl, fun h => absurd h0 h, iff_of_true ⟨rfl, rfl⟩ h0⟩
    · rw [if_neg h0] at hrescan
      rw [Settings.resolve_of_ok hpath hrescan]
      refine ⟨_, rfl, rfl, rfl, rfl, fun _ => ⟨rfl, rfl⟩, iff_of_false ?_ h0⟩
      rintro ⟨-, hsource⟩
      cases hsource

/-- With a birthday in the settings file and another one on the command line, the latter decides. -/
theorem planned_of_birthday_over_birthday :
    let t : Instant := ⟨1577836800, 0, by decide, by decide, by decide, by decide⟩
    let a : Arguments := {
      rootKey := some ExtendedKey.sampleRoot.text
      configFile := some "keysweep.toml"
      settings := { birthday := some t } }
    let w : World :=
      { folder := { files := [("keysweep.toml", utf8 "birthday = \"2013-05-01T00:00:00Z\"")] } }
    Height.estimateWithMargin .bitcoin t = .ok 577762 ∧
      ∃ job, (planned a).result w = .ok job ∧ job.root = ExtendedKey.sampleRoot ∧
        job.plan.rescanFrom = 577762 ∧ job.plan.rescanSource = .birthday := by
  intro t a w
  let file : Settings :=
    { birthday := some ⟨1367366400, 0, by decide, by decide, by decide, by decide⟩ }
  have hfile : (fileSettings a.configFile).result w = .ok file := by decide +kernel
  have hkey : ExtendedKey.sampleRoot.WellFormed := trivial
  have hroot := root_of_text (a := a) rfl (ExtendedKey.parseRoot_text hkey rfl)
    ((fileSettings a.configFile).rest w)
  have hheight : Height.estimateWithMargin .bitcoin t = .ok 577762 := by decide +kernel
  obtain ⟨path, hpath⟩ := Settings.parse_assumedPath
  obtain ⟨job, hjob, hsame, -, -, -, hiff⟩ :=
    (planned_of_birthday hfile hroot rfl rfl hheight (by decide)).2 path hpath
  exact ⟨hheight, job, hjob, hsame, hiff.mpr rfl⟩

/-- With a height in the settings file, a birthday on the command line decides nothing. -/
theorem planned_of_height_over_birthday :
    let t : Instant := ⟨1577836800, 0, by decide, by decide, by decide, by decide⟩
    let a : Arguments := {
      rootKey := some ExtendedKey.sampleRoot.text
      configFile := some "keysweep.toml"
      settings := { birthday := some t } }
    let w : World := { folder := { files := [("keysweep.toml", utf8 "rescan_from = 700000")] } }
    a.settings.rescanFrom = 0 ∧ Height.estimateWithMargin .bitcoin t = .ok 577762 ∧
      ∃ job, (planned a).result w = .ok job ∧ job.plan.rescanFrom = 700000 ∧
        job.plan.rescanSource = .explicit ∧
        ¬ (job.plan.rescanFrom = 577762 ∧ job.plan.rescanSource = .birthday) := by
  intro t a w
  let file : Settings := { rescanFrom := 700000 }
  have hfile : (fileSettings a.configFile).result w = .ok file := by decide +kernel
  have hkey : ExtendedKey.sampleRoot.WellFormed := trivial
  have hroot := root_of_text (a := a) rfl (ExtendedKey.parseRoot_text hkey rfl)
    ((fileSettings a.configFile).rest w)
  have hheight : Height.estimateWithMargin .bitcoin t = .ok 577762 := by decide +kernel
  have hrescan : ((file.overlay {}).overlay a.settings).rescan .bitcoin =
      .ok (700000, .explicit) :=
    Settings.rescan_overlay rfl rfl rfl hheight (by decide)
  obtain ⟨path, hpath⟩ := Settings.parse_assumedPath
  have hplan : ((file.overlay {}).overlay a.settings).resolve .bitcoin = _ :=
    Settings.resolve_of_ok hpath hrescan
  have hjob := planned_of_sources hfile hroot
  rw [hplan] at hjob
  refine ⟨rfl, hheight, _, hjob, rfl, rfl, ?_⟩
  rintro ⟨-, hsource⟩
  cases hsource

end CommandLine.Stage

end WalletRecovery
