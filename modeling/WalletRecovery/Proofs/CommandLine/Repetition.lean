import WalletRecovery.Proofs.CommandLine.Outcome
import WalletRecovery.Proofs.Settings.Choice
import WalletRecovery.Proofs.Settings.RoundTrip

/-! # Repeated runs

A plan can be recorded as settings. They make the same plan again, on any network and with any
birthday, because nothing in them is left open: a path always has a text, and neither the window nor
the height is zero. So a run that finds the plan of another run in its settings file writes the same
script. -/

namespace WalletRecovery

variable {plan : Plan}

/-- The settings that record a plan, with a birthday besides. -/
def Plan.recorded (plan : Plan) (birthday : Option Instant) : Settings where
  format := some plan.strategy.selector
  derivationPath := some plan.derivationPath.text
  recoveryWindow := plan.recoveryWindow
  rescanFrom := plan.rescanFrom
  birthday := birthday

theorem DerivationPath.text_ne_empty (p : DerivationPath) : p.text ≠ "" := by
  intro h
  have hchars := congrArg String.toList h
  rw [toList_text] at hchars
  cases hchars

theorem Settings.Makes.recorded {s : Settings} {n : Network} (h : s.Makes n plan)
    (birthday : Option Instant) (m : Network) :
    (plan.recorded birthday).Makes m { plan with rescanSource := .explicit } where
  format := .named plan.strategy
  path := .given plan.derivationPath.text_ne_empty
  window := .given h.window.ne_zero
  height := .given birthday h.height.ne_zero

theorem Plan.recorded_overlay (plan : Plan) (birthday upper : Option Instant) :
    (plan.recorded birthday).overlay { birthday := upper } =
      plan.recorded (upper.or birthday) := by
  simp [Settings.overlay, recorded]

theorem fromUTF8?_utf8 (s : String) : String.fromUTF8? ⟨(utf8 s).toArray⟩ = some s := by
  rw [utf8, Array.toArray_toList]
  exact dif_pos s.isValidUTF8

theorem Settings.ofFile_utf8 (s : Settings) : ofFile (utf8 s.toToml) = .ok s := by
  rw [ofFile, fromUTF8?_utf8, ← toTomlWith_quote]
  exact ofToml_toTomlWith Toml.quotes_quote s

namespace Job

theorem writeKeys_congr {job job' : Job} (h : job'.keyLine = job.keyLine) (branch : Branch)
    (count index : ℕ) : job'.writeKeys branch count index = job.writeKeys branch count index := by
  induction count generalizing index with
  | zero => rfl
  | succ count ih =>
    rw [writeKeys, writeKeys, h]
    simp only [ih]

theorem runScript_withSource (root : ExtendedKey) (n : Network) (plan : Plan)
    (source : RescanSource) (createdAt : Instant) (sink : Sink) :
    runScript ⟨root, n, { plan with rescanSource := source }⟩ createdAt sink =
      runScript ⟨root, n, plan⟩ createdAt sink := by
  have hline : keyLine ⟨root, n, { plan with rescanSource := source }⟩ =
      keyLine ⟨root, n, plan⟩ := rfl
  rw [runScript, runScript, writeScript, writeScript, writeKeys_congr hline, writeKeys_congr hline]
  rfl

end Job

namespace CommandLine

/-- Whether a run has the root key and the network of a job, finds the plan of the job in its
settings file, and is given nothing else that is not a birthday. -/
structure Repeats (job : Job) (a : Arguments) (w : World) : Prop where
  network : a.network = job.network
  root : ∃ c birthday, KeyStage a w.console (.ok job.root) c ∧ BirthdayStage a c (.ok birthday)
  file : ∃ name birthday, a.configFile = some name ∧
    w.folder.read name = .ok (utf8 (job.plan.recorded birthday).toToml)
  given : ∃ birthday, a.settings = { birthday }

variable {a : Arguments} {w : World}

theorem Repeats.planned {job : Job} (h : Repeats job a w) {s : Settings}
    (hplan : s.resolve job.network = .ok job.plan) :
    Planned a w { job with plan := { job.plan with rescanSource := .explicit } } := by
  obtain ⟨c, asked, hkey, hbirthday⟩ := h.root
  obtain ⟨name, stored, hname, hread⟩ := h.file
  obtain ⟨given, hgiven⟩ := h.given
  have hfile : a.fileSettings w.folder = .ok (job.plan.recorded stored) := by
    rw [Arguments.fileSettings, hname, Option.elim_some, hread, Stage.settingsOfContent,
      Settings.ofFile_utf8]
    rfl
  have hprepared : Prepared a w job.root _ := .mk hfile hkey hbirthday
  rw [hgiven, Plan.recorded_overlay, Plan.recorded_overlay] at hprepared
  have hmakes := (Settings.resolve_eq_ok_iff.mp hplan).recorded (given.or (asked.or stored))
  have hplanned := Planned.mk hprepared (Settings.resolve_eq_ok_iff.mpr (hmakes a.network))
  rwa [h.network] at hplanned

/-- Settings that record a plan make it again, on every network and with every birthday. They are
read back from a settings file. Scripts of the recorded plan are those of the plan, and a run that
is repeated from its recorded plan at the same time ends in the same way and has the same output. -/
theorem recorded_repeats {s : Settings} {n : Network} (h : s.resolve n = .ok plan) :
    (∀ birthday m, (plan.recorded birthday).resolve m =
      .ok { plan with rescanSource := .explicit }) ∧
    (∀ birthday, Settings.ofFile (utf8 (plan.recorded birthday).toToml) =
      .ok (plan.recorded birthday)) ∧
    (∀ root createdAt sink,
      Job.runScript ⟨root, n, { plan with rescanSource := .explicit }⟩ createdAt sink =
        Job.runScript ⟨root, n, plan⟩ createdAt sink) ∧
    ∀ (i i' : Invocation) (a a' : Arguments) (w w' : World) (root : ExtendedKey),
      Arguments.parse i.arguments i.environmentValue? = .ok a →
      Arguments.parse i'.arguments i'.environmentValue? = .ok a' →
      Planned a w ⟨root, n, plan⟩ → Repeats ⟨root, n, plan⟩ a' w' → i'.now = i.now →
      (i'.outcome w').output = (i.outcome w).output ∧
      (i'.outcome w').ending = (i.outcome w).ending := by
  refine ⟨?_, fun birthday => Settings.ofFile_utf8 _, fun root createdAt sink =>
    Job.runScript_withSource root n plan _ createdAt sink, ?_⟩
  · intro birthday m
    exact Settings.resolve_eq_ok_iff.mpr ((Settings.resolve_eq_ok_iff.mp h).recorded birthday m)
  · intro i i' a a' w w' root ha ha' hplanned hrepeats hnow
    have hplanned' := hrepeats.planned h
    rw [(Staged.script hplanned).outcome_eq ha, (Staged.script hplanned').outcome_eq ha', hnow]
    dsimp only
    rw [Job.runScript_withSource]
    exact ⟨rfl, rfl⟩

/-- A run that is given a birthday is repeated from its recorded plan. The height that was estimated
from the birthday is given now, and on a network without heights as well. -/
theorem recorded_repeats_birthday :
    let t : Instant := ⟨1577836800, 0, by decide, by decide, by decide, by decide⟩
    let run (arguments : List String) : Invocation := {
      arguments
      environment := [("KEYSWEEP_ROOTKEY", ExtendedKey.sampleRoot.text)]
      now := t }
    let plan : Plan := { Plan.assumed with rescanFrom := 577762, rescanSource := .birthday }
    let stored := plan.recorded (some t)
    let w : World := { folder := { files := [("keysweep.toml", utf8 stored.toToml)] } }
    ({ birthday := some t } : Settings).resolve .bitcoin = .ok plan ∧
      stored.resolve .signet = .ok { plan with rescanSource := .explicit } ∧
      Settings.ofFile (utf8 stored.toToml) = .ok stored ∧
      ((run ["-c", "keysweep.toml"]).outcome w).output =
        ((run ["--birthday", "2020-01-01"]).outcome {}).output := by
  intro t run plan stored w
  let a : Arguments := {
    rootKey := some ExtendedKey.sampleRoot.text
    settings := { birthday := some t } }
  let a' : Arguments := {
    rootKey := some ExtendedKey.sampleRoot.text
    configFile := some "keysweep.toml" }
  have hmargin : Height.estimateWithMargin .bitcoin t = .ok 577762 := by decide +kernel
  have hplan : ({ birthday := some t } : Settings).resolve .bitcoin = .ok plan :=
    Settings.resolve_of_ok (by decide +kernel) (Settings.rescan_of_birthday rfl rfl hmargin)
  obtain ⟨hresolve, hfile, -, houtcome⟩ := recorded_repeats hplan
  have hkey (b : Arguments) (hb : b.rootKey = some ExtendedKey.sampleRoot.text)
      (hnetwork : b.network = .bitcoin) (c : Console) :
      KeyStage b c (.ok ExtendedKey.sampleRoot) c :=
    keyStage_of_text trivial (by rw [hnetwork]; rfl) hb
  have hplanned : Planned a {} ⟨ExtendedKey.sampleRoot, .bitcoin, plan⟩ :=
    .mk (.mk rfl (hkey a rfl rfl _) (.unasked rfl)) hplan
  have hread : w.folder.read "keysweep.toml" = .ok (utf8 stored.toToml) := by decide +kernel
  have hrepeats : Repeats ⟨ExtendedKey.sampleRoot, .bitcoin, plan⟩ a' w := {
    network := rfl
    root := ⟨_, none, hkey a' rfl rfl _, .unasked rfl⟩
    file := ⟨"keysweep.toml", some t, rfl, hread⟩
    given := ⟨none, rfl⟩ }
  have hsame := houtcome (run ["--birthday", "2020-01-01"]) (run ["-c", "keysweep.toml"]) a a' {} w
    _ (by rfl) (by rfl) hplanned hrepeats rfl
  exact ⟨hplan, hresolve (some t) .signet, hfile (some t), hsame.1⟩

end CommandLine

end WalletRecovery
