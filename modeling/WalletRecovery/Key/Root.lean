import WalletRecovery.Key.Codec
import WalletRecovery.Key.Derivation
import WalletRecovery.Mnemonic.Basic

/-!
# Root keys

The key that a run starts from.  It is given as text, which must belong to the kind of network that
was selected, or made from a mnemonic for that network.
-/

namespace WalletRecovery

inductive RootError where
  | malformedKey (e : KeyError)
  | wrongNetwork (found : NetworkKind) (selected : Network)
  | malformedMnemonic (e : MnemonicError)
  | noMasterKey
deriving DecidableEq

def RootError.diagnosis : RootError → Diagnosis
  | malformedKey e => Diagnosis.within "malformed root key" e.diagnosis
  | wrongNetwork found selected =>
    ⟨s!"root key is a {found.describe} key but network {selected.name} was selected", []⟩
  | malformedMnemonic e => ⟨"malformed mnemonic", [e.message]⟩
  | noMasterKey =>
    ⟨"could not create master key",
      ["secp256k1 error", "malformed or out-of-range secret key"]⟩

namespace ExtendedKey

def parseRoot (text : String) (network : Network) : Except RootError ExtendedKey :=
  match parse text with
  | .error e => .error (.malformedKey e)
  | .ok k => if k.kind = network.kind then .ok k else .error (.wrongNetwork k.kind network)

def ofSeed (seed : List UInt8) (network : Network) : Except RootError ExtendedKey :=
  (ofSeed? network.kind seed).elim (.error .noMasterKey) .ok

/-- The master key that a mnemonic and a passphrase give on a network.  Only the mnemonic is freed
of the blanks around it. -/
def ofMnemonic (phrase passphrase : String) (network : Network) : Except RootError ExtendedKey :=
  let trimmed := String.ofList (Text.trim phrase.toList)
  (Mnemonic.parse trimmed).mapError .malformedMnemonic >>= fun m =>
    ofSeed (m.seed passphrase).toList network

end ExtendedKey

end WalletRecovery
