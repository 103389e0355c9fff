import WalletRecovery.ImportScript.Strategy
import WalletRecovery.Key.Extended
import WalletRecovery.Path.Basic
import WalletRecovery.Time.Instant

/-!
# Log events

What a run reports about itself while it goes on.  Nothing that an event holds is secret: of the
root key it holds no more than the fingerprint.
-/

namespace WalletRecovery.Log

inductive Level where
  | error
  | warn
  | info
  | debug
  | trace
deriving DecidableEq, Repr

namespace Level

/-- The position of a level; the greater, the less it matters. -/
def depth : Level → Nat
  | error => 1
  | warn => 2
  | info => 3
  | debug => 4
  | trace => 5

def name : Level → String
  | error => "ERROR"
  | warn => "WARN"
  | info => "INFO"
  | debug => "DEBUG"
  | trace => "TRACE"

end Level

inductive Event where
  /-- A root key was read from the console. -/
  | rootKeyRead (fingerprint : Bytes 4) (isPrivate : Bool)
  /-- The height to rescan from was estimated from the birthday. -/
  | heightEstimated (height : UInt32)
  /-- Nothing was known about the height to rescan from. -/
  | heightAssumed (height : UInt32)
  /-- A script is going to be written. -/
  | scriptStarted (strategy : Strategy) (path : DerivationPath) (window : UInt32)
  /-- The script that is going to be written holds private keys. -/
  | privateKeysExposed
  /-- The last line of a script was written. -/
  | scriptFinished (keysWritten : Nat) (rescanFrom : UInt32)
  /-- The run is about to end well. -/
  | runFinished (keysWritten : Nat) (rescanFrom : UInt32)
deriving DecidableEq

namespace Event

def level : Event → Level
  | heightAssumed _ => .warn
  | privateKeysExposed => .warn
  | _ => .info

def target : Event → String
  | scriptStarted _ _ _ => "keysweep_script::generator"
  | privateKeysExposed => "keysweep_script::generator"
  | scriptFinished _ _ => "keysweep_script::generator"
  | _ => "keysweep"

def message : Event → String
  | rootKeyRead _ _ => "read root key"
  | heightEstimated _ => "estimated rescan height from birthday"
  | heightAssumed _ => "no rescan height known, using default"
  | scriptStarted _ _ _ => "generating import script"
  | privateKeysExposed => "the generated script contains private keys, handle it with care"
  | scriptFinished _ _ => "import script done"
  | runFinished _ _ => "wrote import script"

def number (n : Nat) : String :=
  String.ofList (Numeral.decimal n)

def fields : Event → List (String × String)
  | rootKeyRead fingerprint isPrivate =>
    [("fingerprint", fingerprint.hex), ("private", if isPrivate then "true" else "false")]
  | heightEstimated height => [("height", number height.toNat)]
  | heightAssumed height => [("height", number height.toNat)]
  | scriptStarted strategy path window =>
    [("format", strategy.selector), ("path", path.text), ("window", number window.toNat)]
  | privateKeysExposed => []
  | scriptFinished keys height =>
    [("keys_written", number keys), ("rescan_from", number height.toNat)]
  | runFinished keys height => [("keys", number keys), ("rescan_from", number height.toNat)]

/-- The names of all that an event holds; what is said of it is one of them. -/
def fieldNames (e : Event) : List String :=
  "message" :: e.fields.map (·.1)

def line (e : Event) : String :=
  e.fields.foldl (fun text (name, value) => s!"{text} {name}={value}")
    s!"{e.level.name} {e.target}: {e.message}"

def stampedLine (e : Event) (time : Instant) : String :=
  s!"{time.rfc3339} {e.line}"

end Event

end WalletRecovery.Log
