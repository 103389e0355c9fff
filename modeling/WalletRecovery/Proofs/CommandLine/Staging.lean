import WalletRecovery.Proofs.CommandLine.Effects
import WalletRecovery.Proofs.ImportScript.Entries

/-! # The stages of a run

A run reads the settings file, finds the root key, asks for a birthday if it had to ask for the key,
makes a plan and writes a script. `Staged` tells for each stage how a run ends that fails there, and
what it leaves behind; every run is told of. -/

namespace WalletRecovery.CommandLine

def Arguments.fileSettings (a : Arguments) (folder : Folder) : Except RunError Settings :=
  a.configFile.elim (.ok {}) fun name =>
    (Stage.settingsOfContent (folder.read name)).mapError (.settingsFile name)

/-- What asking for a root key comes to, and what is left of the console then. -/
inductive KeyAsked (n : Network) (c : Console) : Except RunError ExtendedKey → Console → Prop where
  | noSource {c' : Console} {e : ConsoleError} : c.answer .keySource = (.error e, c') →
      KeyAsked n c (.error (.console .keySource e)) c'
  | noText {c₁ c' : Console} {choice : String} {e : ConsoleError} :
      c.answer .keySource = (.ok choice, c₁) → KeySource.ofAnswer choice = .encoded →
      c₁.answer .rootKey = (.error e, c') → KeyAsked n c (.error (.console .rootKey e)) c'
  | text {c₁ c' : Console} {choice text : String} :
      c.answer .keySource = (.ok choice, c₁) → KeySource.ofAnswer choice = .encoded →
      c₁.answer .rootKey = (.ok text, c') →
      KeyAsked n c ((ExtendedKey.parseRoot text n).mapError .rootKey) c'
  | noPhrase {c₁ c' : Console} {choice : String} {e : ConsoleError} :
      c.answer .keySource = (.ok choice, c₁) → KeySource.ofAnswer choice = .mnemonic →
      c₁.answer .mnemonic = (.error e, c') → KeyAsked n c (.error (.console .mnemonic e)) c'
  | noPassphrase {c₁ c₂ c' : Console} {choice phrase : String} {e : ConsoleError} :
      c.answer .keySource = (.ok choice, c₁) → KeySource.ofAnswer choice = .mnemonic →
      c₁.answer .mnemonic = (.ok phrase, c₂) → c₂.answer .passphrase = (.error e, c') →
      KeyAsked n c (.error (.console .passphrase e)) c'
  | phrase {c₁ c₂ c' : Console} {choice phrase passphrase : String} :
      c.answer .keySource = (.ok choice, c₁) → KeySource.ofAnswer choice = .mnemonic →
      c₁.answer .mnemonic = (.ok phrase, c₂) → c₂.answer .passphrase = (.ok passphrase, c') →
      KeyAsked n c ((ExtendedKey.ofMnemonic phrase passphrase n).mapError .rootKey) c'

/-- Where the root key of a run comes from: the arguments, or else the console. -/
inductive KeyStage (a : Arguments) (c : Console) : Except RunError ExtendedKey → Console → Prop where
  | given {text : String} : a.rootKey = some text →
      KeyStage a c ((ExtendedKey.parseRoot text a.network).mapError .rootKey) c
  | asked {r : Except RunError ExtendedKey} {c' : Console} : a.rootKey = none →
      KeyAsked a.network c r c' → KeyStage a c r c'

/-- Whether a birthday comes from the console, which is asked only if it was asked for the key. -/
inductive BirthdayStage (a : Arguments) (c : Console) : Except RunError (Option Instant) → Prop where
  | unasked {text : String} : a.rootKey = some text → BirthdayStage a c (.ok none)
  | noAnswer {c' : Console} {e : ConsoleError} : a.rootKey = none →
      c.answer .birthday = (.error e, c') → BirthdayStage a c (.error (.console .birthday e))
  | unknown {c' : Console} {text : String} : a.rootKey = none →
      c.answer .birthday = (.ok text, c') → Text.trim text.toList = [] →
      BirthdayStage a c (.ok none)
  | known {c' : Console} {text : String} : a.rootKey = none →
      c.answer .birthday = (.ok text, c') → Text.trim text.toList ≠ [] →
      BirthdayStage a c (((Birthday.parse text).mapError .birthday).map some)

def keyEvents (a : Arguments) (root : ExtendedKey) : List Log.Event :=
  if a.rootKey.isSome then [] else [.rootKeyRead root.fingerprint root.isPrivate]

/-- Whether all sources of a run were read, and gave a root key and settings: those of the file lie
below the birthday from the console, and both below those of the arguments. -/
inductive Prepared (a : Arguments) (w : World) : ExtendedKey → Settings → Prop where
  | mk {file : Settings} {root : ExtendedKey} {c : Console} {birthday : Option Instant} :
      a.fileSettings w.folder = .ok file → KeyStage a w.console (.ok root) c →
      BirthdayStage a c (.ok birthday) →
      Prepared a w root ((file.overlay { birthday }).overlay a.settings)

/-- Whether a run gets as far as to write the script of a job. -/
inductive Planned (a : Arguments) (w : World) : Job → Prop where
  | mk {root : ExtendedKey} {settings : Settings} {plan : Plan} : Prepared a w root settings →
      settings.resolve a.network = .ok plan → Planned a w ⟨root, a.network, plan⟩

def Ending.ofScript : Except ScriptError ScriptSummary → Ending
  | .ok _ => .completed
  | .error e => .failed (.script e)

def finishEvents : Except ScriptError ScriptSummary → List Log.Event
  | .ok s => [.scriptFinished s.keysWritten s.rescanFrom, .runFinished s.keysWritten s.rescanFrom]
  | .error _ => []

/-- How a run ends and what it leaves behind, stage by stage: a stage is reached only if those
before it did not fail. -/
inductive Staged (a : Arguments) (now : Instant) (w : World) : Ending → Transcript → Prop where
  | file {e : RunError} : a.fileSettings w.folder = .error e → Staged a now w (.failed e) {}
  | key {file : Settings} {e : RunError} {c : Console} : a.fileSettings w.folder = .ok file →
      KeyStage a w.console (.error e) c → Staged a now w (.failed e) {}
  | birthday {file : Settings} {root : ExtendedKey} {c : Console} {e : RunError} :
      a.fileSettings w.folder = .ok file → KeyStage a w.console (.ok root) c →
      BirthdayStage a c (.error e) →
      Staged a now w (.failed e) { events := keyEvents a root }
  | plan {root : ExtendedKey} {settings : Settings} {e : PlanError} : Prepared a w root settings →
      settings.resolve a.network = .error e →
      Staged a now w (.failed (.plan e)) { events := keyEvents a root }
  | script {job : Job} : Planned a w job →
      Staged a now w (.ofScript (job.runScript now {}).1) {
        output := (job.runScript now {}).2.bytes
        events := keyEvents a job.root ++ (Stage.heightEvents job.plan ++
          Stage.startEvents job.plan) ++ finishEvents (job.runScript now {}).1 }

namespace Stage

variable {a : Arguments} {w : World} {c : Console}

theorem runs_fileSettings (a : Arguments) (w : World) :
    (fileSettings a.configFile).Runs w (a.fileSettings w.folder) w.console {} := by
  rw [Arguments.fileSettings]
  cases a.configFile <;> rfl

theorem runs_askRoot {n : Network} {r : Except RunError ExtendedKey}
    (h : KeyAsked n w.console r c) : (askRoot n).Runs w r c {} := by
  cases h with
  | noSource hsource => exact (runs_ask_error hsource).bind_error
  | noText hsource hchoice htext =>
    refine (runs_ask hsource).bind_silent ?_
    rw [hchoice]
    exact (runs_ask_error htext).bind_error
  | text hsource hchoice htext =>
    refine (runs_ask hsource).bind_silent ?_
    rw [hchoice]
    exact (runs_ask htext).bind_silent (runs_take _ _ _)
  | noPhrase hsource hchoice hphrase =>
    refine (runs_ask hsource).bind_silent ?_
    rw [hchoice]
    exact (runs_ask_error hphrase).bind_error
  | noPassphrase hsource hchoice hphrase hpassphrase =>
    refine (runs_ask hsource).bind_silent ?_
    rw [hchoice]
    refine (runs_ask hphrase).bind_silent ?_
    exact (runs_ask_error hpassphrase).bind_error
  | phrase hsource hchoice hphrase hpassphrase =>
    refine (runs_ask hsource).bind_silent ?_
    rw [hchoice]
    refine (runs_ask hphrase).bind_silent ?_
    exact (runs_ask hpassphrase).bind_silent (runs_take _ _ _)

theorem exists_keyAsked (n : Network) (c : Console) : ∃ r c', KeyAsked n c r c' := by
  rcases hsource : c.answer .keySource with ⟨e | choice, c₁⟩
  · exact ⟨_, _, .noSource hsource⟩
  cases hchoice : KeySource.ofAnswer choice with
  | encoded =>
    rcases htext : c₁.answer .rootKey with ⟨e | text, c₂⟩
    · exact ⟨_, _, .noText hsource hchoice htext⟩
    · exact ⟨_, _, .text hsource hchoice htext⟩
  | mnemonic =>
    rcases hphrase : c₁.answer .mnemonic with ⟨e | phrase, c₂⟩
    · exact ⟨_, _, .noPhrase hsource hchoice hphrase⟩
    rcases hpassphrase : c₂.answer .passphrase with ⟨e | passphrase, c₃⟩
    · exact ⟨_, _, .noPassphrase hsource hchoice hphrase hpassphrase⟩
    · exact ⟨_, _, .phrase hsource hchoice hphrase hpassphrase⟩

theorem exists_keyStage (a : Arguments) (c : Console) : ∃ r c', KeyStage a c r c' := by
  cases ha : a.rootKey with
  | some text => exact ⟨_, _, .given ha⟩
  | none =>
    obtain ⟨r, c', h⟩ := exists_keyAsked a.network c
    exact ⟨r, c', .asked ha h⟩

theorem exists_birthdayStage (a : Arguments) (c : Console) : ∃ r, BirthdayStage a c r := by
  cases ha : a.rootKey with
  | some text => exact ⟨_, .unasked ha⟩
  | none =>
    rcases hanswer : c.answer .birthday with ⟨e | text, c'⟩
    · exact ⟨_, .noAnswer ha hanswer⟩
    by_cases hblank : Text.trim text.toList = []
    · exact ⟨_, .unknown ha hanswer hblank⟩
    · exact ⟨_, .known ha hanswer hblank⟩

theorem runs_root_of_refused {e : RunError} (h : KeyStage a w.console (.error e) c) :
    (Stage.root a).Runs w (.error e) c {} := by
  rw [Stage.root]
  generalize hr : (Except.error e : Except RunError ExtendedKey) = r at h
  cases h with
  | @given text ha =>
    rw [ha]
    have hrun := (runs_take .rootKey (ExtendedKey.parseRoot text a.network) w).map
      (g := fun k => (k, ({} : Settings)))
    rwa [← hr] at hrun
  | asked ha hasked =>
    rw [ha]
    exact (runs_askRoot (hr ▸ hasked)).bind_error

theorem runs_askBirthday {r : Except RunError (Option Instant)} (ha : a.rootKey = none)
    (h : BirthdayStage a w.console r) : ∃ c', askBirthday.Runs w r c' {} := by
  cases h with
  | unasked hsome =>
    rw [ha] at hsome
    cases hsome
  | noAnswer _ hanswer => exact ⟨_, (runs_ask_error hanswer).bind_error⟩
  | @unknown c' text _ hanswer hblank =>
    refine ⟨c', (runs_ask hanswer).bind_silent ?_⟩
    rw [if_pos hblank]
    exact runs_pure _ _
  | @known c' text _ hanswer hblank =>
    refine ⟨c', (runs_ask hanswer).bind_silent ?_⟩
    rw [if_neg hblank]
    exact (runs_take .birthday (Birthday.parse text) _).map

theorem runs_root {root : ExtendedKey} {r : Except RunError (Option Instant)}
    (h : KeyStage a w.console (.ok root) c) (h' : BirthdayStage a c r) :
    ∃ c', (Stage.root a).Runs w (r.map fun birthday => (root, { birthday })) c'
      { events := keyEvents a root } := by
  rw [Stage.root, keyEvents]
  generalize hkey : (Except.ok root : Except RunError ExtendedKey) = key at h
  cases h with
  | @given text ha =>
    rw [ha]
    cases h' with
    | unasked =>
      have hrun := (runs_take .rootKey (ExtendedKey.parseRoot text a.network) w).map
        (g := fun k => (k, ({} : Settings)))
      rw [← hkey] at hrun
      exact ⟨_, hrun⟩
    | noAnswer hnone | unknown hnone | known hnone =>
      rw [ha] at hnone
      cases hnone
  | asked ha hasked =>
    rw [ha]
    obtain ⟨c', hbirthday⟩ := runs_askBirthday (w := { w with console := c }) ha h'
    refine ⟨c', (runs_askRoot (hkey ▸ hasked)).bind_silent ?_⟩
    have hevent := runs_log (.rootKeyRead root.fingerprint root.isPrivate) { w with console := c }
    have hrest : (do
        let birthday ← askBirthday
        return (root, { birthday }) : Stage (ExtendedKey × Settings)).Runs { w with console := c }
          (r.map fun birthday => (root, { birthday })) c' {} := by
      cases r with
      | error e => exact hbirthday.bind_error
      | ok birthday => exact hbirthday.bind_silent (runs_pure _ _)
    exact hevent.bind (f := fun _ => _) hrest

theorem runs_planned_of_file_error {e : RunError} (h : a.fileSettings w.folder = .error e) :
    (planned a).Runs w (.error e) w.console {} := by
  have hfile := runs_fileSettings a w
  rw [h] at hfile
  exact hfile.bind_error

theorem runs_planned_of_root_error {file : Settings} {e : RunError} {t : Transcript}
    (h : a.fileSettings w.folder = .ok file) (hroot : (Stage.root a).Runs w (.error e) c t) :
    (planned a).Runs w (.error e) c t := by
  have hfile := runs_fileSettings a w
  rw [h] at hfile
  exact hfile.bind_silent hroot.bind_error

theorem runs_planned_of_prepared {root : ExtendedKey} {settings : Settings}
    (h : Prepared a w root settings) :
    ∃ c', (planned a).Runs w
      (((settings.resolve a.network).mapError .plan).map fun plan => ⟨root, a.network, plan⟩) c'
      { events := keyEvents a root } := by
  cases h with
  | @mk file root c birthday hfile hkey hbirthday =>
    obtain ⟨c', hroot⟩ := runs_root hkey hbirthday
    have hfileRun := runs_fileSettings a w
    rw [hfile] at hfileRun
    have hplan := runs_take .plan
      (((file.overlay { birthday }).overlay a.settings).resolve a.network)
      { w with console := c' }
    have hjob : (planned a).Runs w
        (((((file.overlay { birthday }).overlay a.settings).resolve a.network).mapError
          RunError.plan).map fun plan => ⟨root, a.network, plan⟩) c'
        (Transcript.mk [] (keyEvents a root) ++ {}) :=
      hfileRun.bind_silent (hroot.bind hplan.map)
    rw [Transcript.append_empty] at hjob
    exact ⟨c', hjob⟩

theorem runs_generate (job : Job) (now : Instant) (w : World) :
    (generate job now).Runs w
      (((job.runScript now {}).1.mapError .script).map fun _ => ()) w.console {
        output := (job.runScript now {}).2.bytes
        events := heightEvents job.plan ++ startEvents job.plan ++
          finishEvents (job.runScript now {}).1 } := by
  rw [generate]
  generalize job.runScript now {} = out
  obtain ⟨r, sink⟩ := out
  have htake := runs_take .script r w
  have hrest : (do
      let summary ← take .script r
      log (.scriptFinished summary.keysWritten summary.rescanFrom)
      log (.runFinished summary.keysWritten summary.rescanFrom) : Stage Unit).Runs w
        ((r.mapError .script).map fun _ => ()) w.console { events := finishEvents r } := by
    cases r with
    | error e => exact htake.bind_error
    | ok s =>
      have hfinished := runs_log (.scriptFinished s.keysWritten s.rescanFrom) w
      exact htake.bind_silent (hfinished.bind (f := fun _ => log _) (runs_log _ w))
  -- the bytes are written before it is looked at how the script ended
  have hrun := (runs_forM_log (heightEvents job.plan ++ startEvents job.plan) w).bind
    (f := fun _ => _) ((runs_write sink.bytes w).bind (f := fun _ => _) hrest)
  simpa only [Transcript.mk_append, List.nil_append, List.append_nil] using hrun

end Stage

def Ending.ofResult : Except RunError Unit → Ending
  | .ok _ => .completed
  | .error e => .failed e

theorem Ending.ofResult_script (r : Except ScriptError ScriptSummary) :
    ofResult ((r.mapError .script).map fun _ => ()) = ofScript r := by
  cases r <;> rfl

namespace Stage

theorem runs_all_of_planned {job : Job} (h : Planned a w job) (now : Instant) :
    ∃ c, (Stage.all a now).Runs w (((job.runScript now {}).1.mapError .script).map fun _ => ()) c {
      output := (job.runScript now {}).2.bytes
      events := keyEvents a job.root ++ (heightEvents job.plan ++ startEvents job.plan) ++
        finishEvents (job.runScript now {}).1 } := by
  cases h with
  | @mk root settings plan hprepared hplan =>
    obtain ⟨c, hplanned⟩ := runs_planned_of_prepared hprepared
    rw [hplan] at hplanned
    have hgenerate := runs_generate ⟨root, a.network, plan⟩ now { w with console := c }
    generalize Job.runScript ⟨root, a.network, plan⟩ now {} = out at hgenerate ⊢
    have hrun := hplanned.bind (f := (generate · now)) hgenerate
    rw [Transcript.mk_append, List.nil_append, ← List.append_assoc] at hrun
    exact ⟨c, hrun⟩

theorem quiet_fileSettings (name : Option String) : (fileSettings name).Quiet := by
  intro w
  cases name <;> rfl

theorem quiet_generate (job : Job) (now : Instant) : (generate job now).Quiet := by
  have hstart : ∀ events : List Log.Event, (events.forM log : Stage Unit).Quiet := by
    intro events
    induction events with
    | nil => exact fun _ => rfl
    | cons event events ih => exact (quiet_log event).bind fun _ => ih
  exact (hstart _).bind fun _ => (quiet_write _).bind fun _ => (quiet_take _ _).bind fun _ =>
    (quiet_log _).bind fun _ => quiet_log _

theorem quiet_all {a : Arguments} {text : String} (ha : a.rootKey = some text) (now : Instant) :
    (Stage.all a now).Quiet := by
  have hroot : (Stage.root a).Quiet := by
    rw [Stage.root, ha]
    exact (quiet_take .rootKey (ExtendedKey.parseRoot text a.network)).map
  exact ((quiet_fileSettings _).bind fun _ => hroot.bind fun _ => (quiet_take _ _).bind fun _ =>
    fun _ => rfl).bind fun job => quiet_generate job now

end Stage

variable {a : Arguments} {now : Instant} {w : World}

theorem exists_staged (a : Arguments) (now : Instant) (w : World) :
    ∃ ending t, Staged a now w ending t := by
  cases hfile : a.fileSettings w.folder with
  | error e => exact ⟨_, _, .file hfile⟩
  | ok file =>
  obtain ⟨key, c, hkey⟩ := Stage.exists_keyStage a w.console
  cases key with
  | error e => exact ⟨_, _, .key hfile hkey⟩
  | ok root =>
  obtain ⟨birthday, hbirthday⟩ := Stage.exists_birthdayStage a c
  cases birthday with
  | error e => exact ⟨_, _, .birthday hfile hkey hbirthday⟩
  | ok birthday =>
  have hprepared : Prepared a w root _ := .mk hfile hkey hbirthday
  cases hplan : ((file.overlay { birthday }).overlay a.settings).resolve a.network with
  | error e => exact ⟨_, _, .plan hprepared hplan⟩
  | ok plan => exact ⟨_, _, .script (.mk hprepared hplan)⟩

/-- What is told of the stages is what the run does. -/
theorem Staged.runs {ending : Ending} {t : Transcript} (h : Staged a now w ending t) :
    ∃ r c, (Stage.all a now).Runs w r c t ∧ ending = .ofResult r := by
  cases h with
  | file hfile => exact ⟨_, _, (Stage.runs_planned_of_file_error hfile).bind_error, rfl⟩
  | key hfile hkey =>
    have hplanned := Stage.runs_planned_of_root_error hfile (Stage.runs_root_of_refused hkey)
    exact ⟨_, _, hplanned.bind_error, rfl⟩
  | birthday hfile hkey hbirthday =>
    obtain ⟨c, hroot⟩ := Stage.runs_root hkey hbirthday
    exact ⟨_, _, (Stage.runs_planned_of_root_error hfile hroot).bind_error, rfl⟩
  | plan hprepared hplan =>
    obtain ⟨c, hplanned⟩ := Stage.runs_planned_of_prepared hprepared
    rw [hplan] at hplanned
    exact ⟨_, c, hplanned.bind_error, rfl⟩
  | script hjob =>
    obtain ⟨c, hrun⟩ := Stage.runs_all_of_planned hjob now
    exact ⟨_, c, hrun, (Ending.ofResult_script _).symm⟩

end WalletRecovery.CommandLine
