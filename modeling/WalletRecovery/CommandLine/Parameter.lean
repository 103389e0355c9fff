/-!
# Parameters

What can be set on the command line, each by an option with a value or else by an environment
variable.
-/

namespace WalletRecovery.CommandLine

inductive Parameter where
  | rootKey
  | format
  | derivationPath
  | recoveryWindow
  | rescanFrom
  | birthday
  | network
  | configFile
deriving DecidableEq, Repr

namespace Parameter

/-- Every parameter, in the order in which environment variables are looked at. -/
def all : List Parameter :=
  [rootKey, format, derivationPath, recoveryWindow, rescanFrom, birthday, network, configFile]

def name : Parameter → String
  | rootKey => "rootkey"
  | format => "format"
  | derivationPath => "derivationpath"
  | recoveryWindow => "recoverywindow"
  | rescanFrom => "rescanfrom"
  | birthday => "birthday"
  | network => "network"
  | configFile => "config"

def letter? : Parameter → Option Char
  | network => some 'n'
  | configFile => some 'c'
  | _ => none

def placeholder : Parameter → String
  | rootKey => "ROOTKEY"
  | format => "FORMAT"
  | derivationPath => "DERIVATION_PATH"
  | recoveryWindow => "RECOVERY_WINDOW"
  | rescanFrom => "RESCAN_FROM"
  | birthday => "BIRTHDAY"
  | network => "NETWORK"
  | configFile => "CONFIG"

/-- The environment variable that is looked at where the option is missing. -/
def environmentVariable (p : Parameter) : String :=
  s!"KEYSWEEP_{p.placeholder}"

def usage (p : Parameter) : String :=
  s!"--{p.name} <{p.placeholder}>"

def description : Parameter → String
  | rootKey => "the extended root key (xprv/tprv/xpub/tpub), prompted for if omitted"
  | format => "output format: bitcoin-cli, bitcoin-cli-watchonly or bitcoin-importwallet"
  | derivationPath =>
    "path prefix below which the 0 and 1 branches are derived [default: m/84'/0'/0']"
  | recoveryWindow => "number of keys per branch [default: 2500]"
  | rescanFrom =>
    "block height to rescan from [default: estimated from the birthday, else 500000]"
  | birthday => "wallet creation time as RFC 3339 timestamp or YYYY-MM-DD date"
  | network =>
    "the network of the root key: bitcoin, testnet, signet or regtest [default: bitcoin]"
  | configFile => "TOML file with defaults for the script options"

def ofName? (name : String) : Option Parameter :=
  all.find? fun p => p.name = name

def ofLetter? (c : Char) : Option Parameter :=
  all.find? fun p => p.letter? = some c

end Parameter

end WalletRecovery.CommandLine
