import WalletRecovery.CommandLine.Number
import WalletRecovery.CommandLine.Parameter
import WalletRecovery.Network
import WalletRecovery.Settings.Basic
import WalletRecovery.Text.Terminal
import WalletRecovery.Time.Birthday

/-!
# Arguments

The values of the parameters.  Every parameter can be given once; its value is checked when it is
taken in.  What the command line leaves open is looked up in the environment.
-/

namespace WalletRecovery.CommandLine

inductive ValueError where
  | number (e : NumberError)
  | birthday (e : Birthday.Invalid)
  | network (text : String)
deriving DecidableEq, Repr

def ValueError.message : ValueError → String
  | number e => e.message
  | birthday e => e.message
  | network text => Network.unknownName text

inductive ArgumentError where
  | unexpected (shown : String)
  | missingValue (p : Parameter)
  | invalidValue (p : Parameter) (text : String) (e : ValueError)
  | repeated (p : Parameter)
  | superfluousValue (switch text : String)
deriving DecidableEq, Repr

def ArgumentError.message : ArgumentError → String
  | unexpected shown => s!"unexpected argument '{Text.Terminal.emphasize shown}' found"
  | missingValue p => s!"a value is required for '{p.usage}' but none was supplied"
  | invalidValue p text e =>
    s!"invalid value '{Text.Terminal.emphasize text}' for '{p.usage}': {e.message}"
  | repeated p => s!"the argument '{p.usage}' cannot be used multiple times"
  | superfluousValue switch text =>
    let value := Text.Terminal.emphasize text
    s!"unexpected value '{value}' for '{switch}' found; no more were expected"

def ArgumentError.report (e : ArgumentError) : String :=
  let help := Text.Terminal.emphasize "--help"
  s!"error: {e.message}\n\nFor more information, try '{help}'."

/-- The lines of the report of a command line that is refused.  They are not meant for a terminal,
so nothing in them is set off. -/
def ArgumentError.lines (e : ArgumentError) : List String :=
  ((Text.Terminal.plain e.report).toList.splitOn '\n').map String.ofList

structure Given where
  rootKey : Option String := none
  format : Option String := none
  derivationPath : Option String := none
  recoveryWindow : Option UInt32 := none
  rescanFrom : Option UInt32 := none
  birthday : Option Instant := none
  network : Option Network := none
  configFile : Option String := none
deriving DecidableEq, Repr

/-- What a run is told: where the root key and the settings come from, and the settings that were
given directly. -/
structure Arguments where
  rootKey : Option String := none
  network : Network := .bitcoin
  configFile : Option String := none
  settings : Settings := {}
deriving DecidableEq, Repr

namespace Given

def has (g : Given) : Parameter → Bool
  | .rootKey => g.rootKey.isSome
  | .format => g.format.isSome
  | .derivationPath => g.derivationPath.isSome
  | .recoveryWindow => g.recoveryWindow.isSome
  | .rescanFrom => g.rescanFrom.isSome
  | .birthday => g.birthday.isSome
  | .network => g.network.isSome
  | .configFile => g.configFile.isSome

def assign (g : Given) (p : Parameter) (text : String) : Except ArgumentError Given :=
  let refused (e : ValueError) := ArgumentError.invalidValue p text e
  match p with
  | .rootKey => .ok { g with rootKey := some text }
  | .format => .ok { g with format := some text }
  | .derivationPath => .ok { g with derivationPath := some text }
  | .recoveryWindow => do
    let n ← (readNumber text).mapError fun e => refused (.number e)
    return { g with recoveryWindow := some n }
  | .rescanFrom => do
    let n ← (readNumber text).mapError fun e => refused (.number e)
    return { g with rescanFrom := some n }
  | .birthday => do
    let t ← (Birthday.parse text).mapError fun e => refused (.birthday e)
    return { g with birthday := some t }
  | .network =>
    match Network.ofName? text with
    | some n => .ok { g with network := some n }
    | none => .error (refused (.network text))
  | .configFile =>
    if text = "" then .error (.missingValue .configFile)
    else .ok { g with configFile := some text }

def add (g : Given) (p : Parameter) (text : String) : Except ArgumentError Given :=
  if g.has p then .error (.repeated p) else g.assign p text

/-- Takes the value of a parameter from the environment, unless it has one. -/
def fill (g : Given) (environment : String → Option String) (p : Parameter) :
    Except ArgumentError Given :=
  if g.has p then .ok g
  else
    match environment p.environmentVariable with
    | none => .ok g
    | some text => g.assign p text

def fillAll (g : Given) (environment : String → Option String) : Except ArgumentError Given :=
  Parameter.all.foldlM (fun g p => g.fill environment p) g

def arguments (g : Given) : Arguments where
  rootKey := g.rootKey
  network := g.network.getD .bitcoin
  configFile := g.configFile
  settings := {
    format := g.format
    derivationPath := g.derivationPath
    recoveryWindow := g.recoveryWindow.getD 0
    rescanFrom := g.rescanFrom.getD 0
    birthday := g.birthday }

end Given

end WalletRecovery.CommandLine
