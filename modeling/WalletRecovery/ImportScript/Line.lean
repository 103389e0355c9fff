import WalletRecovery.ImportScript.Strategy
import WalletRecovery.Key.Representation
import WalletRecovery.Path.Basic

/-!
# Lines of an import script

One line imports one key under a label, which is the path of the key with a slash at its end.
-/

namespace WalletRecovery

/-- The two branches below an account. -/
inductive Branch where
  /-- Addresses to receive on. -/
  | external
  /-- Addresses for change. -/
  | internal
deriving DecidableEq, Repr

def Branch.index : Branch → Nat
  | external => 0
  | internal => 1

def Branch.child : Branch → ChildNumber
  | external => .zero
  | internal => ⟨1, false, by decide⟩

def Branch.all : List Branch :=
  [external, internal]

/-- The place of a key below an account. -/
structure KeyLabel where
  /-- The path of the account. -/
  account : DerivationPath
  branch : Branch
  index : Nat
deriving DecidableEq, Repr

def KeyLabel.text (l : KeyLabel) : String :=
  s!"{l.account.text}/{l.branch.index}/{l.index}/"

def clientCommand : String := "bitcoin-cli"

/-- The creation time of every key in a wallet dump. -/
def dumpTimestamp : String := "1970-01-01T00:00:01Z"

def Representation.exportedKey (r : Representation) : Except RepresentationError String :=
  match r.wif with
  | some wif => .ok wif
  | none => .error .privateMaterialRequired

def Strategy.line (s : Strategy) (r : Representation) (label : KeyLabel) :
    Except RepresentationError String :=
  match s with
  | directImport =>
    r.exportedKey.map fun wif => s!"{clientCommand} importprivkey {wif} \"{label.text}\" false"
  | watchOnlyImport =>
    .ok s!"{clientCommand} importpubkey {r.publicKey.hex} \"{label.text}\" false"
  | bulkDump =>
    r.exportedKey.map fun wif =>
      let addresses := s!"{r.p2pkh},{r.p2shP2wpkh},{r.p2wpkh}"
      s!"{wif} {dumpTimestamp} label={label.text} # addr={addresses}"

end WalletRecovery
