import WalletRecovery.CommandLine.Parser

/-!
# What the program says about itself

The version, and a page that lists the options.
-/

namespace WalletRecovery.CommandLine.Usage

def version : String := "keysweep 0.1.0\n"

def heading (letter : Option Char) (usage : String) : String :=
  match letter with
  | some c => s!"  -{c}, {usage}"
  | none => s!"      {usage}"

def parameterEntry (p : Parameter) : String :=
  s!"{heading p.letter? p.usage}\n          {p.description} [env: {p.environmentVariable}]\n"

def switchDescription : Switch → String
  | .help => "Print help"
  | .version => "Print version"

def switchEntry (s : Switch) : String :=
  s!"{heading (some s.letter) s.usage}\n          {switchDescription s}\n"

def page : String :=
  String.join <|
    "Generates a bitcoin-cli import script for the keys below an extended root key\n\n" ::
    "Usage: keysweep [OPTIONS]\n\nOptions:\n" ::
    (Parameter.all.map parameterEntry ++ Switch.all.map switchEntry)

end WalletRecovery.CommandLine.Usage
