import WalletRecovery.Proofs.CommandLine.Birthday
import WalletRecovery.Proofs.CommandLine.Staging

/-! # The outcome of a run

What can be seen of a run from outside follows from its stages. Nothing is written before a plan is
made, and then nothing but the script is. -/

namespace WalletRecovery

def Plan.assumed : Plan where
  strategy := .directImport
  derivationPath := ⟨[⟨84, true, by decide⟩, ⟨0, true, ChildNumber.zero.index_lt⟩,
    ⟨0, true, ChildNumber.zero.index_lt⟩]⟩
  recoveryWindow := Settings.assumedWindow
  rescanFrom := Settings.assumedHeight
  rescanSource := .assumed

theorem Settings.resolve_empty (n : Network) : ({} : Settings).resolve n = .ok Plan.assumed :=
  resolve_of_ok (by decide +kernel) rfl

/-- The first step of the assumed path is hardened, so no key is derived without a secret. -/
theorem Job.keyLine_assumed {root : ExtendedKey} (h : root.isPrivate = false) (n : Network) :
    (⟨root, n, Plan.assumed⟩ : Job).keyLine .external 0 =
      .error (.derivation .external 0
        (.privateMaterialRequired ⟨84, true, by decide⟩ root.depth)) := by
  let child : ChildNumber := ⟨84, true, by decide⟩
  have hcannot : ¬ root.CanTake [child] := by
    simp [ExtendedKey.CanTake, h, child]
  have hstep : root.step child = .error (.privateMaterialRequired child root.depth) := by
    rw [ExtendedKey.step_eq, ExtendedKey.hashed_eq_none_iff.mpr hcannot]
  refine keyLine_of_derive_error (by decide) ?_
  change root.deriveSteps (child :: _) = _
  rw [ExtendedKey.deriveSteps_cons, hstep]
  rfl

theorem Job.runScript_assumed {root : ExtendedKey} (h : root.isPrivate = false) (n : Network)
    (now : Instant) :
    let job : Job := ⟨root, n, Plan.assumed⟩
    (job.runScript now {}).1 = .error (.derivation .external 0
        (.privateMaterialRequired ⟨84, true, by decide⟩ root.depth)) ∧
      (job.runScript now {}).2.bytes = linesBytes (job.comments now) := by
  intro job
  have hwindow : 0 < job.window := window_pos (show Plan.assumed.recoveryWindow ≠ 0 by decide)
  have hdraft := draft_of_first_error now hwindow (keyLine_assumed h n)
  rw [bytes_runScript_empty, runScript_empty, hdraft]
  exact ⟨rfl, rfl⟩

namespace CommandLine

theorem keyStage_of_text {a : Arguments} {root : ExtendedKey} {c : Console} (h : root.WellFormed)
    (hkind : root.kind = a.network.kind) (ha : a.rootKey = some root.text) :
    KeyStage a c (.ok root) c := by
  have hgiven : KeyStage a c _ c := .given ha
  rwa [ExtendedKey.parseRoot_text h hkind] at hgiven

theorem planned_assumed {root : ExtendedKey} (h : root.WellFormed) (hkind : root.kind = .main) :
    Planned { rootKey := some root.text } {} ⟨root, .bitcoin, Plan.assumed⟩ :=
  .mk (.mk rfl (keyStage_of_text h hkind rfl) (.unasked rfl)) (Settings.resolve_empty _)

variable {i : Invocation} {a : Arguments} {w : World}

theorem Ending.exitCode_eq_zero_iff {ending : Ending} :
    ending.exitCode = 0 ↔ ending = .completed := by
  cases ending <;> simp [exitCode]

theorem Ending.ofScript_eq_completed_iff {r : Except ScriptError ScriptSummary} :
    ofScript r = .completed ↔ r.isOk = true := by
  cases r <;> simp [ofScript, Except.isOk, Except.toBool]

theorem Invocation.session_eq (h : Arguments.parse i.arguments i.environmentValue? = .ok a) :
    i.session = (Stage.all a i.now).run >>= fun r => pure (.ofResult r) := by
  rw [session, h]
  dsimp only
  congr 1
  funext r
  cases r <;> rfl

theorem Invocation.run_session (h : Arguments.parse i.arguments i.environmentValue? = .ok a)
    {r : Except RunError Unit} {c : Console} {t : Transcript}
    (hrun : (Stage.all a i.now).Runs w r c t) : i.session.run w = (.ofResult r, c, t) := by
  have hend : i.session.run w = (.ofResult r, c, t ++ {}) := by
    rw [Stage.Runs] at hrun
    rw [session_eq h, Session.run_bind, hrun]
    rfl
  rwa [Transcript.append_empty] at hend

theorem Staged.outcome_eq (h : Arguments.parse i.arguments i.environmentValue? = .ok a)
    {ending : Ending} {t : Transcript} (hstaged : Staged a i.now w ending t) :
    i.outcome w = ⟨ending, t.output, t.events.filter i.filter.admits⟩ := by
  obtain ⟨r, c, hrun, rfl⟩ := hstaged.runs
  rw [Invocation.outcome, Invocation.run_session h hrun]

theorem Invocation.questions_session
    (h : Arguments.parse i.arguments i.environmentValue? = .ok a) (w : World) :
    i.session.questions w = (Stage.all a i.now).run.questions w := by
  rw [session_eq h, Session.questions_bind]
  exact List.append_nil _

/-- A run whose arguments are accepted ends at the first of its stages that fails, and only the
stage that writes the script writes anything: all of the script, or what stands in front of the
first key that fails. It ends well exactly if the script is finished. The console is left alone if a
root key is given. -/
theorem Invocation.outcome_staged (h : Arguments.parse i.arguments i.environmentValue? = .ok a)
    (w : World) :
    (∃ events, Staged a i.now w (i.outcome w).ending ⟨(i.outcome w).output, events⟩) ∧
    (∀ job, Planned a w job →
      (i.outcome w).output = (job.runScript i.now {}).2.bytes ∧
      (i.outcome w).ending = .ofScript (job.runScript i.now {}).1 ∧
      job.Scripted i.now (job.runScript i.now {}).1 (i.outcome w).output) ∧
    ((∀ job, ¬ Planned a w job) → (i.outcome w).output = []) ∧
    ((i.outcome w).ending.exitCode = 0 ↔
      ∃ job, Planned a w job ∧ (job.runScript i.now {}).1.isOk = true) ∧
    (a.rootKey ≠ none → i.session.questions w = [] ∧
      ∀ c, i.outcome { w with console := c } = i.outcome w) := by
  have hplanned : ∀ job, Planned a w job →
      (i.outcome w).output = (job.runScript i.now {}).2.bytes ∧
      (i.outcome w).ending = .ofScript (job.runScript i.now {}).1 ∧
      job.Scripted i.now (job.runScript i.now {}).1 (i.outcome w).output := by
    intro job hjob
    rw [Staged.outcome_eq h (.script hjob)]
    exact ⟨rfl, rfl, job.runScript_scripted i.now⟩
  obtain ⟨ending, t, hstaged⟩ := exists_staged a i.now w
  have houtcome := hstaged.outcome_eq h
  have hunplanned : (∀ job, ¬ Planned a w job) → t.output = [] ∧ ending ≠ .completed := by
    intro hnone
    cases hstaged with
    | script hjob => exact absurd hjob (hnone _)
    | file | key | birthday | plan => exact ⟨rfl, nofun⟩
  refine ⟨⟨t.events, ?_⟩, hplanned, ?_, ?_, ?_⟩
  · rw [houtcome]
    exact hstaged
  · intro hnone
    rw [houtcome]
    exact (hunplanned hnone).1
  · rw [Ending.exitCode_eq_zero_iff]
    constructor
    · intro hcompleted
      obtain ⟨job, hjob⟩ : ∃ job, Planned a w job := by
        by_contra hnone
        rw [houtcome] at hcompleted
        exact (hunplanned (not_exists.mp hnone)).2 hcompleted
      rw [(hplanned job hjob).2.1, Ending.ofScript_eq_completed_iff] at hcompleted
      exact ⟨job, hjob, hcompleted⟩
    · rintro ⟨job, hjob, hok⟩
      rw [(hplanned job hjob).2.1]
      exact Ending.ofScript_eq_completed_iff.mpr hok
  · intro hkey
    obtain ⟨text, htext⟩ := Option.ne_none_iff_exists'.mp hkey
    have hquiet : i.session.questions w = [] := by
      rw [questions_session h]
      exact Stage.quiet_all htext i.now w
    refine ⟨hquiet, fun c => ?_⟩
    rw [outcome, outcome, Session.run_of_questions_eq_nil hquiet]

/-- A key without its secret cannot take the assumed path, so a run that is given such a key and
nothing else writes the comments of a script and fails at its first key. -/
theorem Invocation.outcome_staged_watchOnly :
    let root := ExtendedKey.sampleRoot.neuter
    let i : Invocation := {
      arguments := []
      environment := [("KEYSWEEP_ROOTKEY", root.text)]
      now := ⟨0, 0, by decide, by decide, by decide, by decide⟩ }
    let a : Arguments := { rootKey := some root.text }
    let job : Job := ⟨root, .bitcoin, Plan.assumed⟩
    Arguments.parse i.arguments i.environmentValue? = .ok a ∧ Planned a {} job ∧
      (i.outcome {}).output = linesBytes (job.comments i.now) ∧
      (i.outcome {}).ending = .failed (.script (.derivation .external 0
        (.privateMaterialRequired ⟨84, true, by decide⟩ 0))) ∧
      (i.outcome {}).ending.exitCode = 1 ∧
      ∀ c, i.outcome { console := c } = i.outcome {} := by
  intro root i a job
  have hparse : Arguments.parse i.arguments i.environmentValue? = .ok a := rfl
  have hwell : root.WellFormed := ExtendedKey.WellFormed.neuter trivial
  have hjob : Planned a {} job := planned_assumed hwell rfl
  obtain ⟨-, hplanned, -, -, hquiet⟩ := outcome_staged hparse {}
  obtain ⟨houtput, hending, -⟩ := hplanned job hjob
  rw [(Job.runScript_assumed rfl _ _).1] at hending
  rw [(Job.runScript_assumed rfl _ _).2] at houtput
  refine ⟨hparse, hjob, houtput, hending, ?_, (hquiet nofun).2⟩
  rw [hending]
  rfl

end CommandLine

end WalletRecovery
