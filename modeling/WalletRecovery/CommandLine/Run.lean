import WalletRecovery.CommandLine.Session
import WalletRecovery.CommandLine.Usage
import WalletRecovery.ImportScript.Job
import WalletRecovery.Key.Root
import WalletRecovery.Log.Filter
import WalletRecovery.Settings.File

/-!
# Runs

A run goes through stages: it reads the command line, then the settings file, then the root key,
from the command line or the console; it makes a plan; and it writes the script.  The first stage
that fails ends it.  The settings of the file lie below a birthday from the console, and both lie
below what was given directly.
-/

namespace WalletRecovery.CommandLine

inductive RunError where
  | settingsFile (name : String) (e : Settings.FileError)
  | console (q : Question) (e : ConsoleError)
  | rootKey (e : RootError)
  | birthday (e : Birthday.Invalid)
  | plan (e : PlanError)
  | script (e : ScriptError)
deriving DecidableEq

/-- What is reported of a settings file.  Of a fault in its text only the head of the cause is kept,
without the place of the fault and the line that is shown with it. -/
def fileDiagnosis (name : String) : Settings.FileError → Diagnosis
  | .unreadable reason => ⟨s!"failed to read config file {name}", [reason]⟩
  | .notUtf8 => ⟨s!"failed to read config file {name}", [Settings.notUtf8Reason]⟩
  | .notToml => ⟨s!"failed to parse config file {name}", ["TOML parse error"]⟩
  | .unsuitable _ => ⟨s!"failed to parse config file {name}", ["TOML parse error"]⟩

def RunError.diagnosis : RunError → Diagnosis
  | settingsFile name e => fileDiagnosis name e
  | console q e => Diagnosis.within q.failure e.diagnosis
  | rootKey e => e.diagnosis
  | birthday e => ⟨e.message, []⟩
  | plan e => Diagnosis.within "invalid script options" e.diagnosis
  | script e => Diagnosis.within "failed to generate import script" e.diagnosis

abbrev Stage := ExceptT RunError Session

namespace Stage

def log (event : Log.Event) : Stage Unit :=
  Session.log event (pure (.ok ()))

def write (bytes : List UInt8) : Stage Unit :=
  Session.write bytes (pure (.ok ()))

def ask (q : Question) : Stage String :=
  Session.ask q fun answer => pure (answer.mapError (.console q))

def take {ε α : Type} (cause : ε → RunError) (result : Except ε α) : Stage α :=
  ExceptT.mk (pure (result.mapError cause))

def settingsOfContent : Except FileFault (List UInt8) → Except Settings.FileError Settings
  | .error fault => .error (.unreadable fault.message)
  | .ok bytes => Settings.ofFile bytes

def fileSettings : Option String → Stage Settings
  | none => pure {}
  | some name => Session.readFile name fun content =>
    pure ((settingsOfContent content).mapError (.settingsFile name))

def askRoot (network : Network) : Stage ExtendedKey := do
  let source ← ask .keySource
  match KeySource.ofAnswer source with
  | .encoded =>
    let text ← ask .rootKey
    take .rootKey (ExtendedKey.parseRoot text network)
  | .mnemonic =>
    let phrase ← ask .mnemonic
    let passphrase ← ask .passphrase
    take .rootKey (ExtendedKey.ofMnemonic phrase passphrase network)

/-- Asks for the birthday of the wallet, which can be left open. -/
def askBirthday : Stage (Option Instant) := do
  let text ← ask .birthday
  if Text.trim text.toList = [] then return none
  else some <$> take .birthday (Birthday.parse text)

/-- Finds the root key, and the settings that were asked for together with it.  The console is left
alone if a root key was given. -/
def root (a : Arguments) : Stage (ExtendedKey × Settings) :=
  match a.rootKey with
  | some text => (·, {}) <$> take .rootKey (ExtendedKey.parseRoot text a.network)
  | none => do
    let root ← askRoot a.network
    log (.rootKeyRead root.fingerprint root.isPrivate)
    let birthday ← askBirthday
    return (root, { birthday })

def heightEvents (plan : Plan) : List Log.Event :=
  match plan.rescanSource with
  | .explicit => []
  | .birthday => [.heightEstimated plan.rescanFrom]
  | .assumed => [.heightAssumed plan.rescanFrom]

def startEvents (plan : Plan) : List Log.Event :=
  .scriptStarted plan.strategy plan.derivationPath plan.recoveryWindow ::
    if plan.strategy.exportsPrivateKeys then [.privateKeysExposed] else []

/-- Writes the script of a job.  If it cannot be finished, what there is of it is written. -/
def generate (job : Job) (now : Instant) : Stage Unit := do
  (heightEvents job.plan ++ startEvents job.plan).forM log
  let (result, sink) := job.runScript now {}
  write sink.bytes
  let summary ← take .script result
  log (.scriptFinished summary.keysWritten summary.rescanFrom)
  log (.runFinished summary.keysWritten summary.rescanFrom)

/-- Finds out what is to be done: the root key, and the plan that all settings make together. -/
def planned (a : Arguments) : Stage Job := do
  let file ← fileSettings a.configFile
  let (root, asked) ← root a
  let plan ← take .plan (((file.overlay asked).overlay a.settings).resolve a.network)
  return ⟨root, a.network, plan⟩

def all (a : Arguments) (now : Instant) : Stage Unit := do
  let job ← planned a
  generate job now

end Stage

inductive Ending where
  | completed
  /-- Its command line is refused. -/
  | refused (e : ArgumentError)
  | failed (e : RunError)
deriving DecidableEq

namespace Ending

def exitCode : Ending → UInt32
  | completed => 0
  | failed _ => 1
  | refused _ => 2

def report : Ending → List String
  | completed => []
  | refused e => e.lines
  | failed e => e.diagnosis.lines

end Ending

structure Invocation where
  arguments : List String
  /-- The environment variables that are set. -/
  environment : List (String × String) := []
  now : Instant
deriving DecidableEq

namespace Invocation

def environmentValue? (i : Invocation) (name : String) : Option String :=
  i.environment.lookup name

def filter (i : Invocation) : Log.Filter :=
  Log.Filter.ofVariable (i.environmentValue? Log.Filter.environmentVariable)

def session (i : Invocation) : Session Ending :=
  match Arguments.parse i.arguments i.environmentValue? with
  | .error (.refused e) => .done (.refused e)
  | .error (.asked .help) => .write (utf8 Usage.page) (.done .completed)
  | .error (.asked .version) => .write (utf8 Usage.version) (.done .completed)
  | .ok a => do
    match ← (Stage.all a i.now).run with
    | .ok () => return .completed
    | .error e => return .failed e

end Invocation

structure Outcome where
  ending : Ending
  /-- What was written to the standard output. -/
  output : List UInt8
  /-- The events that the filter let pass. -/
  log : List Log.Event
deriving DecidableEq

def Invocation.outcome (i : Invocation) (world : World) : Outcome :=
  let (ending, _, transcript) := i.session.run world
  ⟨ending, transcript.output, transcript.events.filter i.filter.admits⟩

end WalletRecovery.CommandLine
