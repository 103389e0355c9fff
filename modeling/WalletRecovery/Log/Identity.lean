import WalletRecovery.Text.Quoted

/-!
# Identity of a running program

The name under which a program writes its log: a base name, and behind a percent sign the label of
the service that it runs as, if it has one.
-/

namespace WalletRecovery.Log

def serviceLabelVariable : String := "KEYSWEEP_SVC_LABEL"

def programName : String := "keysweep"

def whoami (base : String) (label : Option String) : String :=
  match label with
  | some label => s!"{base}%{label}"
  | none => base

structure Config where
  whoami : String
  /-- Whether lines are coloured. -/
  ansi : Bool := true
deriving DecidableEq, Repr

def Config.ofBaseName (base : String) (label : Option String) : Config :=
  { whoami := Log.whoami base label }

def Config.standard (label : Option String) : Config :=
  Config.ofBaseName programName label

def Config.setAnsi (c : Config) (ansi : Bool) : Config :=
  { c with ansi := ansi }

def Config.text (c : Config) : String :=
  let ansi := if c.ansi then "true" else "false"
  s!"LoggerConfig \x7b whoami: {Text.quote c.whoami}, ansi: {ansi} \x7d"

end WalletRecovery.Log
