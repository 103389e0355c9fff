import WalletRecovery.Hash.Hmac
import WalletRecovery.Mnemonic.WordList
import WalletRecovery.Text.Normalize

/-!
# Mnemonics

A mnemonic writes the bits of a secret, and a few bits of their hash, as words of eleven bits each.
The words and a passphrase are stretched into the seed of a master key.
-/

namespace WalletRecovery

structure Mnemonic where
  words : List String
deriving DecidableEq, Repr

inductive MnemonicError where
  /-- The number of words is none of the five allowed ones. -/
  | wordCount (count : Nat)
  /-- A word is not in the list; words are counted from zero. -/
  | unknownWord (position : Nat)
  /-- The last bits are not those of the hash. -/
  | checksum
deriving DecidableEq, Repr

def MnemonicError.message : MnemonicError → String
  | wordCount count =>
    s!"mnemonic has an invalid word count: {count}. Word count must be 12, 15, 18, 21, or 24"
  | unknownWord position => s!"mnemonic contains an unknown word (word {position})"
  | checksum => "the mnemonic has an invalid checksum"

namespace Mnemonic

def wordCounts : List Nat :=
  [12, 15, 18, 21, 24]

/-- The positions of words in the list, or the first word that is not in it; `position` counts the
words before. -/
def indices : Nat → List String → Except MnemonicError (List Nat)
  | _, [] => .ok []
  | position, word :: rest =>
    match indexOf? word with
    | none => .error (.unknownWord position)
    | some i => (indices (position + 1) rest).map (i :: ·)

def bits (indices : List Nat) : Nat :=
  Numeral.value 2048 indices

/-- The number of checksum bits: one for every three words. -/
def checksumLength (wordCount : Nat) : Nat :=
  wordCount / 3

/-- The secret bits of the words: all but the last ones, which are the checksum. -/
def entropy (indices : List Nat) : Bytes (4 * (indices.length / 3)) :=
  Bytes.ofNat _ (bits indices >>> checksumLength indices.length)

/-- The first bits of the hash of a byte string, at most eight, as a number. -/
def leadingHashBits (bs : List UInt8) (count : Nat) : Nat :=
  (sha256 bs).toNat >>> (256 - count)

/-- Whether the last bits of the words are the first ones of the hash of the others. -/
def checksumHolds (indices : List Nat) : Bool :=
  let count := checksumLength indices.length
  bits indices % (1 <<< count) == leadingHashBits (entropy indices).toList count

def wordsOf (phrase : String) : List String :=
  (Text.words (Text.nfkd phrase.toList)).map String.ofList

def parse (phrase : String) : Except MnemonicError Mnemonic :=
  let words := wordsOf phrase
  if words.length ∉ wordCounts then .error (.wordCount words.length)
  else
    match indices 0 words with
    | .error e => .error e
    | .ok indices => if checksumHolds indices then .ok ⟨words⟩ else .error .checksum

def rounds : Nat := 2048

def seed (m : Mnemonic) (passphrase : String) : Bytes 64 :=
  let normal := String.ofList (Text.nfkd passphrase.toList)
  pbkdf2 (utf8 (" ".intercalate m.words)) (utf8 "mnemonic" ++ utf8 normal) rounds

end Mnemonic

end WalletRecovery
