/-!
# Formats of an import script

A script can import private keys one by one, import public keys only, or be a dump of a wallet that
is imported as a whole.  A format is selected by name; unknown names select the first one.
-/

namespace WalletRecovery

inductive Strategy where
  /-- One call for every private key. -/
  | directImport
  /-- One call for every public key; no secret is written. -/
  | watchOnlyImport
  /-- A wallet dump with private keys and addresses. -/
  | bulkDump
deriving DecidableEq, Repr

namespace Strategy

def selector : Strategy → String
  | directImport => "bitcoin-cli"
  | watchOnlyImport => "bitcoin-cli-watchonly"
  | bulkDump => "bitcoin-importwallet"

def all : List Strategy :=
  [directImport, watchOnlyImport, bulkDump]

def ofSelector (name : String) : Strategy :=
  (all.find? fun s => s.selector = name).getD directImport

theorem ofSelector_selector (s : Strategy) : ofSelector s.selector = s := by
  cases s <;> decide

def exportsPrivateKeys : Strategy → Bool
  | watchOnlyImport => false
  | _ => true

/-- The comment that tells what to do with a script. -/
def usageHint : Strategy → String
  | bulkDump => "# Save this output to a file and use the importwallet command of bitcoin core."
  | _ => "# Paste the following lines into a command line window."

end Strategy

end WalletRecovery
