import WalletRecovery.Key.Extended
import WalletRecovery.Path.Basic
import WalletRecovery.Hash.Hmac
import WalletRecovery.Diagnosis

/-!
# Deriving keys

A child key is made from its parent by adding a number that is hashed from the parent and the step.
Normal steps hash the public key, so they can also be taken without the secret; hardened steps hash
the secret.  `derive` follows a whole path and stops at the first step that cannot be taken.
-/

namespace WalletRecovery

open Curve

inductive DerivationError where
  /-- A hardened step needs a secret that the key does not hold. -/
  | privateMaterialRequired (child : ChildNumber) (depth : UInt8)
  /-- The key is already at the greatest depth. -/
  | depthLimit
  /-- A step was asked for whose index is too large. -/
  | indexOutOfRange (e : ChildNumber.OutOfRange)
  /-- The hashed number is out of range, or the child is no valid key. -/
  | invalidTweak
deriving DecidableEq

/-- The message of the rule that a step would break, if it is one of the rules of derivation. -/
def DerivationError.rule? : DerivationError → Option String
  | privateMaterialRequired _ _ => none
  | depthLimit => some "cannot derive child of depth 256 or higher"
  | indexOutOfRange e => some e.message
  | invalidTweak => some "secp256k1 error"

/-- What is reported of a step that cannot be taken.  Of an invalid tweak the causes are kept down to
the curve, without what the curve itself says of the number. -/
def DerivationError.diagnosis (e : DerivationError) : Diagnosis :=
  match e, e.rule? with
  | _, some rule => ⟨s!"bip32 derivation failed: {rule}", [rule]⟩
  | privateMaterialRequired child depth, none =>
    ⟨s!"private material required for hardened step {child.text} at depth {depth.toNat}", []⟩
  | _, none => ⟨"bip32 derivation failed", []⟩

namespace KeyMaterial

/-- What a step hashes together with its child number. -/
def hashed (m : KeyMaterial) (publicKey : Bytes 33) (hardened : Bool) : Option (Bytes 33) :=
  match hardened, m with
  | false, _ => some publicKey
  | true, secret key => some (Bytes.single 0 ++ key.toBytes)
  | true, point _ => none

/-- The material of a child: that of its parent with a number added. -/
def add? (tweak : SecretKey) : KeyMaterial → Option KeyMaterial
  | secret key => (key.add? tweak).map secret
  | point p =>
    match tweak.publicPoint + p with
    | .infinity => none
    | q => some (point q)

end KeyMaterial

namespace ExtendedKey

def step (k : ExtendedKey) (child : ChildNumber) : Except DerivationError ExtendedKey :=
  let publicKey := k.publicKey
  match k.material.hashed publicKey child.hardened with
  | none => .error (.privateMaterialRequired child k.depth)
  | some data =>
    if k.depth = 255 then .error .depthLimit
    else
      let code := hmacSha512 k.chainCode.toList (data.toList ++ child.toBytes.toList)
      let (left, right) := Bytes.split (show Bytes (32 + 32) from code)
      match (SecretKey.ofBytes? left).bind (k.material.add? ·) with
      | none => .error .invalidTweak
      | some material =>
        .ok { k with
          depth := k.depth + 1
          parent := fingerprintOf publicKey
          child := child
          chainCode := right
          material := material }

def deriveSteps (k : ExtendedKey) : List ChildNumber → Except DerivationError ExtendedKey
  | [] => .ok k
  | c :: rest => k.step c >>= fun next => next.deriveSteps rest

def derive (k : ExtendedKey) (p : DerivationPath) : Except DerivationError ExtendedKey :=
  k.deriveSteps p.steps

/-- The master key that a hash of a seed stands for, unless its first half is no secret key. -/
def ofSeedHash? (kind : NetworkKind) (code : Bytes 64) : Option ExtendedKey :=
  let (left, right) := Bytes.split (show Bytes (32 + 32) from code)
  (SecretKey.ofBytes? left).map fun key =>
    { kind := kind, depth := 0, parent := Bytes.zero 4, child := .zero,
      chainCode := right, material := .secret key }

def ofSeed? (kind : NetworkKind) (seed : List UInt8) : Option ExtendedKey :=
  ofSeedHash? kind (hmacSha512 (utf8 "Bitcoin seed") seed)

end ExtendedKey

end WalletRecovery
