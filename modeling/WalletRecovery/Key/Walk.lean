import WalletRecovery.Key.Codec
import WalletRecovery.Key.Derivation

/-!
# Walks

A walk goes from key to key by derivation, by dropping the secret and by reading a key from its own
text. An operation that fails is recorded and leaves the key where it is.
-/

namespace WalletRecovery

inductive KeyOperation where
  | step (c : ChildNumber)
  | derive (p : DerivationPath)
  | neuter
  /-- Reads the key from its text. -/
  | reread
deriving DecidableEq

inductive KeyOperationError where
  | derivation (e : DerivationError)
  | malformed (e : KeyError)
deriving DecidableEq

/-- One operation of a walk, and the key after it. -/
structure Visit where
  operation : KeyOperation
  failure : Option KeyOperationError
  key : ExtendedKey
deriving DecidableEq

namespace ExtendedKey

def outcome (k : ExtendedKey) : KeyOperation → Except KeyOperationError ExtendedKey
  | .step c => (k.step c).mapError .derivation
  | .derive p => (k.derive p).mapError .derivation
  | .neuter => .ok k.neuter
  | .reread => (parse k.text).mapError .malformed

def visit (k : ExtendedKey) (op : KeyOperation) : Visit :=
  match k.outcome op with
  | .ok next => ⟨op, none, next⟩
  | .error e => ⟨op, some e, k⟩

def walk (k : ExtendedKey) : List KeyOperation → List Visit
  | [] => []
  | op :: ops => k.visit op :: (k.visit op).key.walk ops

def walkEnd (k : ExtendedKey) : List KeyOperation → ExtendedKey
  | [] => k
  | op :: ops => (k.visit op).key.walkEnd ops

end ExtendedKey

end WalletRecovery
