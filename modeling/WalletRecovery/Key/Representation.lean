import WalletRecovery.Key.Extended
import WalletRecovery.Encoding.Base58
import WalletRecovery.Encoding.Bech32

/-!
# Representations of a key

The texts under which a wallet knows a key: the private key for import, and the three kinds of
address that pay to its public key.
-/

namespace WalletRecovery

def NetworkKind.wifVersion : NetworkKind → UInt8
  | .main => 0x80
  | .test => 0xef

def NetworkKind.keyHashVersion : NetworkKind → UInt8
  | .main => 0x00
  | .test => 0x6f

def NetworkKind.scriptHashVersion : NetworkKind → UInt8
  | .main => 0x05
  | .test => 0xc4

/-- The script that pays to a public key hash by witness version zero. -/
def witnessScript (hash : Bytes 20) : List UInt8 :=
  0x00 :: 0x14 :: hash.toList

def versionedText (version : UInt8) (payload : List UInt8) : String :=
  String.ofList (Base58.encodeChecked (version :: payload))

def redeemScriptLimit : Nat := 520

inductive RepresentationError where
  /-- The format exports private keys, and the key holds none. -/
  | privateMaterialRequired
  /-- A script is too long to be paid to by its hash. -/
  | redeemScript
deriving DecidableEq, Repr

def RepresentationError.message : RepresentationError → String
  | privateMaterialRequired => "private material required to export the signing key"
  | redeemScript =>
    s!"could not create script hash address: script size exceed {redeemScriptLimit} bytes"

def scriptHashAddress (kind : NetworkKind) (script : List UInt8) :
    Except RepresentationError String :=
  if redeemScriptLimit < script.length then .error .redeemScript
  else .ok (versionedText kind.scriptHashVersion (hash160 script).toList)

/-- The texts under which a wallet knows a key. -/
structure Representation where
  /-- The private key, marked as belonging to a compressed public key. -/
  wif : Option String
  publicKey : Bytes 33
  /-- The hash of the compressed public key. -/
  publicKeyHash : Bytes 20
  /-- The address that pays to the public key hash. -/
  p2pkh : String
  /-- The native address that pays to the public key hash by witness. -/
  p2wpkh : String
  /-- The script hash address around the witness one. -/
  p2shP2wpkh : String
deriving DecidableEq

def ExtendedKey.represent (k : ExtendedKey) (network : Network) : Representation :=
  let kind := network.kind
  let publicKey := k.publicKey
  let hash := hash160 publicKey.toList
  { wif := k.secret?.map fun key => versionedText kind.wifVersion (key.toBytes.toList ++ [1])
    publicKey := publicKey
    publicKeyHash := hash
    p2pkh := versionedText kind.keyHashVersion hash.toList
    p2wpkh := Bech32.witnessAddress network.addressPrefix 0 hash
    p2shP2wpkh :=
      versionedText kind.scriptHashVersion (hash160 (witnessScript hash)).toList }

/-- The representations of a key on a network, if the script around its witness program can be paid
to. -/
def ExtendedKey.represent? (k : ExtendedKey) (network : Network) :
    Except RepresentationError Representation :=
  let script := witnessScript (hash160 k.publicKey.toList)
  (scriptHashAddress network.kind script).map fun address =>
    { k.represent network with p2shP2wpkh := address }

theorem length_witnessScript (hash : Bytes 20) : (witnessScript hash).length = 22 := by
  simp [witnessScript, hash.length_eq]

/-- The script has always the same length, far below the limit. -/
theorem ExtendedKey.represent?_eq (k : ExtendedKey) (network : Network) :
    k.represent? network = .ok (k.represent network) := by
  have hlength := length_witnessScript (hash160 k.publicKey.toList)
  have hlimit : ¬ redeemScriptLimit < (witnessScript (hash160 k.publicKey.toList)).length := by
    rw [hlength]
    decide
  simp only [represent?, scriptHashAddress, if_neg hlimit]
  rfl

end WalletRecovery
