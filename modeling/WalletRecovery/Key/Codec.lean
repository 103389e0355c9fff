import WalletRecovery.Key.Extended
import WalletRecovery.Encoding.Base58
import WalletRecovery.Text.Blank
import WalletRecovery.Diagnosis

/-!
# Encoded keys

An extended key is written as a payload of 78 bytes in checked base 58: version, depth, fingerprint
of the parent, child number, chain code, and 33 bytes of key.  The version tells the kind of
network, and whether the key is a secret or a compressed point.
-/

namespace WalletRecovery

open Curve

def NetworkKind.secretVersion : NetworkKind → Bytes 4
  | .main => Bytes.ofNat 4 0x0488ade4
  | .test => Bytes.ofNat 4 0x04358394

def NetworkKind.publicVersion : NetworkKind → Bytes 4
  | .main => Bytes.ofNat 4 0x0488b21e
  | .test => Bytes.ofNat 4 0x043587cf

def NetworkKind.ofVersion? (version : NetworkKind → Bytes 4) (bs : Bytes 4) : Option NetworkKind :=
  [NetworkKind.main, NetworkKind.test].find? fun kind => version kind = bs

abbrev payloadLength : Nat := 78

inductive KeyError where
  | base58 (e : Base58.CheckedError)
  | payloadLength (length : Nat)
  | unknownVersion (bs : Bytes 4)
  | secretOutOfRange
  | invalidPoint
deriving DecidableEq

def KeyError.encoding : KeyError → Diagnosis
  | base58 e => ⟨"base58 encoding error", e.chain⟩
  | payloadLength length =>
    ⟨"base58 payload",
      [s!"decoded base58 xpriv/xpub data was an invalid length: {length} (expected 78)"]⟩
  | unknownVersion bs =>
    let bytes := ", ".intercalate (bs.toList.map fun b => toString b.toNat)
    ⟨s!"unknown version magic bytes: [{bytes}]", []⟩
  | secretOutOfRange => ⟨"secp256k1 error", ["malformed or out-of-range secret key"]⟩
  | invalidPoint => ⟨"secp256k1 error", ["malformed public key"]⟩

def KeyError.diagnosis (e : KeyError) : Diagnosis :=
  Diagnosis.within s!"malformed extended key: {e.encoding.message}" e.encoding

structure KeyFields where
  version : Bytes 4
  depth : Bytes 1
  parent : Bytes 4
  child : Bytes 4
  chainCode : Bytes 32
  key : Bytes 33

def KeyFields.join (f : KeyFields) : Bytes payloadLength :=
  f.version ++ (f.depth ++ (f.parent ++ (f.child ++ (f.chainCode ++ f.key))))

def KeyFields.cut (payload : Bytes payloadLength) : KeyFields :=
  let (version, rest) := Bytes.split (show Bytes (4 + 74) from payload)
  let (depth, rest) := Bytes.split (show Bytes (1 + 73) from rest)
  let (parent, rest) := Bytes.split (show Bytes (4 + 69) from rest)
  let (child, rest) := Bytes.split (show Bytes (4 + 65) from rest)
  let (chainCode, key) := Bytes.split (show Bytes (32 + 33) from rest)
  ⟨version, depth, parent, child, chainCode, key⟩

namespace ExtendedKey

def versioned (k : ExtendedKey) : Bytes 4 × Bytes 33 :=
  match k.material with
  | .secret key => (k.kind.secretVersion, Bytes.single 0 ++ key.toBytes)
  | .point p => (k.kind.publicVersion, p.compress)

def fields (k : ExtendedKey) : KeyFields where
  version := k.versioned.1
  depth := Bytes.single k.depth
  parent := k.parent
  child := k.child.toBytes
  chainCode := k.chainCode
  key := k.versioned.2

def payload (k : ExtendedKey) : Bytes payloadLength :=
  k.fields.join

def text (k : ExtendedKey) : String :=
  String.ofList (Base58.encodeChecked k.payload.toList)

def ofFields (f : KeyFields) (kind : NetworkKind) (material : KeyMaterial) : ExtendedKey where
  kind := kind
  depth := f.depth.byte
  parent := f.parent
  child := ChildNumber.ofBytes f.child
  chainCode := f.chainCode
  material := material

/-- Reads a payload that holds a secret.  The byte in front of the secret is not looked at. -/
def ofSecretFields? (f : KeyFields) : Except KeyError ExtendedKey :=
  match NetworkKind.ofVersion? NetworkKind.secretVersion f.version with
  | none => .error (.unknownVersion f.version)
  | some kind =>
    match SecretKey.ofBytes? (Bytes.split (show Bytes (1 + 32) from f.key)).2 with
    | none => .error .secretOutOfRange
    | some key => .ok (ofFields f kind (.secret key))

def ofPublicFields? (f : KeyFields) : Except KeyError ExtendedKey :=
  match NetworkKind.ofVersion? NetworkKind.publicVersion f.version with
  | none => .error (.unknownVersion f.version)
  | some kind =>
    match Point.decompress? f.key with
    | none => .error .invalidPoint
    | some p => .ok (ofFields f kind (.point p))

def fieldsOf? (cs : List Char) : Except KeyError KeyFields :=
  match Base58.decodeChecked cs with
  | .error e => .error (.base58 e)
  | .ok bs =>
    match Bytes.ofList? payloadLength bs with
    | none => .error (.payloadLength bs.length)
    | some payload => .ok (KeyFields.cut payload)

def parseSecret (cs : List Char) : Except KeyError ExtendedKey :=
  fieldsOf? cs >>= ofSecretFields?

def parsePublic (cs : List Char) : Except KeyError ExtendedKey :=
  fieldsOf? cs >>= ofPublicFields?

/-- Reads the text of a key, with or without blanks around it.  A text that is neither a secret nor
a public key is reported as if a secret key had been meant. -/
def parse (text : String) : Except KeyError ExtendedKey :=
  let cs := Text.trim text.toList
  match parseSecret cs with
  | .ok k => .ok k
  | .error e =>
    match parsePublic cs with
    | .ok k => .ok k
    | .error _ => .error e

end ExtendedKey

end WalletRecovery
