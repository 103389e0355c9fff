import WalletRecovery.Hash.Sha2

/-!
# Keyed hashing

HMAC over SHA-512, and the password stretching of PBKDF2 built on it.
-/

namespace WalletRecovery

namespace Hmac

def blockSize : Nat := 128

/-- A key as one block: hashed if it is too long, then filled with zeros. -/
def keyBlock (key : List UInt8) : List UInt8 :=
  let short := if key.length > blockSize then (sha512 key).toList else key
  short ++ List.replicate (blockSize - short.length) 0

end Hmac

def hmacSha512 (key message : List UInt8) : Bytes 64 :=
  let block := Hmac.keyBlock key
  let inner := sha512 (block.map (· ^^^ 0x36) ++ message)
  sha512 (block.map (· ^^^ 0x5c) ++ inner.toList)

namespace Hmac

/-- Runs the code `rounds` times on its own result and adds all results up bitwise. -/
def stretch (password : List UInt8) : Nat → Bytes 64 → Bytes 64 → Bytes 64
  | 0, _, total => total
  | rounds + 1, last, total =>
    let next := hmacSha512 password last.toList
    stretch password rounds next
      ⟨List.zipWith (· ^^^ ·) total.toList next.toList, by
        simp [total.length_eq, next.length_eq]⟩

end Hmac

def pbkdf2 (password salt : List UInt8) (rounds : Nat) : Bytes 64 :=
  let first := hmacSha512 password (salt ++ [0, 0, 0, 1])
  Hmac.stretch password (rounds - 1) first first

end WalletRecovery
