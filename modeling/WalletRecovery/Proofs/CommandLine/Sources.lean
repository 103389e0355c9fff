import WalletRecovery.Proofs.CommandLine.Outcome
import WalletRecovery.Proofs.Settings.Layers

/-! # The sources of a run

The settings of a run are layers: those of the file lie below what was asked for at the console, and
both lie below those of the arguments. A run depends on its sources only through the root key and
what the layers come to, so nothing that a layer hides can be seen of it from outside. -/

namespace WalletRecovery.CommandLine

open Settings (AlikeUnder Grouping Layered SameButHidden)

variable {i : Invocation} {a : Arguments} {w w' : World} {root : ExtendedKey} {file s : Settings}
  {birthday : Option Instant}

/-- Whether the file and the console give a run settings, a root key, and a birthday or none. -/
structure Sources (a : Arguments) (w : World) (root : ExtendedKey) (file : Settings)
    (birthday : Option Instant) : Prop where
  file : a.fileSettings w.folder = .ok file
  console : ∃ c, KeyStage a w.console (.ok root) c ∧ BirthdayStage a c (.ok birthday)

def Arguments.layers (a : Arguments) (file : Settings) (birthday : Option Instant) :
    List Settings :=
  [file, { birthday }, a.settings]

theorem Arguments.foldl_layers (a : Arguments) (file : Settings) (birthday : Option Instant) :
    (a.layers file birthday).foldl Settings.overlay {} =
      (file.overlay { birthday }).overlay a.settings := by
  rw [layers, List.foldl_cons, Settings.empty_overlay]
  rfl

theorem Sources.prepared (h : Sources a w root file birthday) :
    Prepared a w root ((a.layers file birthday).foldl Settings.overlay {}) := by
  obtain ⟨c, hkey, hbirthday⟩ := h.console
  rw [a.foldl_layers]
  exact .mk h.file hkey hbirthday

theorem prepared_iff : Prepared a w root s ↔
    ∃ file birthday, Sources a w root file birthday ∧ Layered (a.layers file birthday) s := by
  constructor
  · rintro @⟨file, _, c, birthday, hfile, hkey, hbirthday⟩
    have hlayered := Settings.foldl_overlay_eq_iff.mp (a.foldl_layers file birthday)
    exact ⟨file, birthday, ⟨hfile, c, hkey, hbirthday⟩, hlayered⟩
  · rintro ⟨file, birthday, hsources, hlayered⟩
    rw [← Settings.foldl_overlay_eq_iff.mpr hlayered]
    exact hsources.prepared

theorem outcome_eq_of_prepared (h : Arguments.parse i.arguments i.environmentValue? = .ok a)
    (hprepared : Prepared a w root s) (hprepared' : Prepared a w' root s) :
    i.outcome w' = i.outcome w := by
  cases hplan : s.resolve a.network with
  | error e =>
    rw [(Staged.plan hprepared hplan).outcome_eq h, (Staged.plan hprepared' hplan).outcome_eq h]
  | ok plan =>
    have hjob : Planned a w _ := .mk hprepared hplan
    have hjob' : Planned a w' _ := .mk hprepared' hplan
    rw [(Staged.script hjob).outcome_eq h, (Staged.script hjob').outcome_eq h]

/-- Layers come to the settings that have in every field the value of the last layer that sets it,
in whatever groups they are joined; settings that leave everything open change nothing. What lies
below layers makes a difference exactly if it does so in a field that they leave open. So what layers
hide has no influence on the plan or on the failure to make one. The settings of a run are what the
layers of its file, its console and its arguments come to, and what these hide has no influence on
its outcome. -/
theorem lastSet_decides :
    (∀ (layers : List Settings) (s : Settings),
      layers.foldl Settings.overlay {} = s ↔ Layered layers s) ∧
    (∀ a b c : Settings, (a.overlay b).overlay c = a.overlay (b.overlay c)) ∧
    (∀ s : Settings, Settings.overlay {} s = s ∧ s.overlay {} = s) ∧
    (∀ g : Grouping, g.settings = g.layers.foldl Settings.overlay {}) ∧
    (∀ (above : List Settings) (s t : Settings),
      above.foldl Settings.overlay s = above.foldl Settings.overlay t ↔ AlikeUnder above s t) ∧
    (∀ layers layers' : List Settings, SameButHidden layers layers' → ∀ n : Network,
      (layers.foldl Settings.overlay {}).resolve n =
        (layers'.foldl Settings.overlay {}).resolve n) ∧
    (∀ (a : Arguments) (w : World) (root : ExtendedKey) (s : Settings), Prepared a w root s ↔
      ∃ file birthday, Sources a w root file birthday ∧ Layered (a.layers file birthday) s) ∧
    ∀ (i : Invocation) (a : Arguments) (w w' : World) (root : ExtendedKey) (file file' : Settings)
      (birthday birthday' : Option Instant),
      Arguments.parse i.arguments i.environmentValue? = .ok a →
      Sources a w root file birthday → Sources a w' root file' birthday' →
      SameButHidden (a.layers file birthday) (a.layers file' birthday') →
      i.outcome w' = i.outcome w := by
  refine ⟨fun _ _ => Settings.foldl_overlay_eq_iff, Settings.overlay_assoc,
    fun s => ⟨s.empty_overlay, s.overlay_empty⟩, Grouping.settings_eq_foldl,
    fun _ _ _ => Settings.foldl_overlay_eq_foldl_iff, ?_, fun _ _ _ _ => prepared_iff, ?_⟩
  · intro layers layers' hhidden n
    rw [hhidden.foldl_eq]
  · intro i a w w' root file file' birthday birthday' h hsources hsources' hhidden
    have hprepared' := hsources'.prepared
    rw [← hhidden.foldl_eq] at hprepared'
    exact outcome_eq_of_prepared h hsources.prepared hprepared'

/-- A malformed path and a height in the settings file do nothing, not even harm, if the arguments
give others. The format of the file shows from below. -/
theorem lastSet_decides_malformed :
    let file : Settings := {
      format := some "bitcoin-cli-watchonly"
      derivationPath := some "m/"
      rescanFrom := 700000 }
    let file' : Settings := { format := some "bitcoin-cli-watchonly" }
    let given : Settings := { derivationPath := some "m/1", rescanFrom := 5 }
    let i : Invocation := {
      arguments := ["-c", "keysweep.toml", "--derivationpath", "m/1", "--rescanfrom", "5"]
      environment := [("KEYSWEEP_ROOTKEY", ExtendedKey.sampleRoot.text)]
      now := ⟨0, 0, by decide, by decide, by decide, by decide⟩ }
    let w (text : String) : World := { folder := { files := [("keysweep.toml", utf8 text)] } }
    Layered [file, {}, given] { given with format := some "bitcoin-cli-watchonly" } ∧
      (∀ n, file.resolve n = .error (.malformedPath (.emptySegment 0))) ∧
      SameButHidden [file, {}, given] [file', {}, given] ∧
      (∀ n, ([file, {}, given].foldl Settings.overlay {}).resolve n =
        ([file', {}, given].foldl Settings.overlay {}).resolve n) ∧
      i.outcome (w "format = \"bitcoin-cli-watchonly\"\n") =
        i.outcome (w ("format = \"bitcoin-cli-watchonly\"\n" ++
          "derivation_path = \"m/\"\nrescan_from = 700000\n")) := by
  intro file file' given i w
  obtain ⟨hlayers, -, -, -, -, hplans, -, hruns⟩ := lastSet_decides
  have hhidden : SameButHidden [file, {}, given] [file', {}, given] := by
    refine .cons ?_ (.same _)
    intro _ unset field hfield
    cases hfield with
    | format | recoveryWindow | birthday => exact Or.inl rfl
    | derivationPath | rescanFrom => exact Or.inr ⟨given, by simp, by decide⟩
  have hmalformed (n : Network) : file.resolve n = .error (.malformedPath (.emptySegment 0)) :=
    Settings.resolve_of_malformed (by decide)
  let a : Arguments := {
    rootKey := some ExtendedKey.sampleRoot.text
    configFile := some "keysweep.toml"
    settings := given }
  have hsources {text : String} {s : Settings} (hfile : a.fileSettings (w text).folder = .ok s) :
      Sources a (w text) ExtendedKey.sampleRoot s none :=
    ⟨hfile, _, keyStage_of_text trivial rfl rfl, .unasked rfl⟩
  refine ⟨(hlayers _ _).mp (by decide), hmalformed, hhidden, hplans _ _ hhidden, ?_⟩
  exact hruns i a _ _ ExtendedKey.sampleRoot file file' none none rfl
    (hsources (by decide +kernel)) (hsources (by decide +kernel)) hhidden

end WalletRecovery.CommandLine
