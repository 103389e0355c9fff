import WalletRecovery.Hash.Sha2

/-!
# Base 58

Bytes are written as one large number in base 58, with a `1` for every zero byte in front.  The
checked form appends the first four bytes of a double hash before writing.
-/

namespace WalletRecovery.Base58

/-- The digits in ascending order: no zero, capital O, capital I or small l. -/
def alphabet : List Char :=
  ['1', '2', '3', '4', '5', '6', '7', '8', '9', 'A', 'B', 'C', 'D', 'E', 'F', 'G', 'H', 'J', 'K',
    'L', 'M', 'N', 'P', 'Q', 'R', 'S', 'T', 'U', 'V', 'W', 'X', 'Y', 'Z', 'a', 'b', 'c', 'd', 'e',
    'f', 'g', 'h', 'i', 'j', 'k', 'm', 'n', 'o', 'p', 'q', 'r', 's', 't', 'u', 'v', 'w', 'x', 'y',
    'z']

theorem length_alphabet : alphabet.length = 58 := rfl

theorem nodup_alphabet : alphabet.Nodup := by decide

def digitChar (d : Nat) : Char :=
  alphabet.getD d '1'

def encode (bs : List UInt8) : List Char :=
  List.replicate (bs.takeWhile (· = 0)).length '1' ++
    (Numeral.digits 58 (Numeral.value 256 (bs.map UInt8.toNat))).map digitChar

def digitsOf : List Char → Except Char (List Nat)
  | [] => .ok []
  | c :: rest =>
    match alphabet.idxOf? c with
    | none => .error c
    | some d => (digitsOf rest).map (d :: ·)

/-- Reads bytes in base 58, or finds the first character that is no digit. -/
def decode (cs : List Char) : Except Char (List UInt8) :=
  (digitsOf cs).map fun ds =>
    List.replicate (cs.takeWhile (· = '1')).length 0 ++
      (Numeral.digits 256 (Numeral.value 58 ds)).map UInt8.ofNat

def checksum (payload : List UInt8) : List UInt8 :=
  (sha256 (sha256 payload).toList).toList.take 4

def encodeChecked (payload : List UInt8) : List Char :=
  encode (payload ++ checksum payload)

inductive CheckedError where
  /-- A character is no digit. -/
  | invalidCharacter (c : Char)
  /-- There are fewer bytes than a checksum has. -/
  | tooShort (length : Nat)
  /-- The checksum is another one than the payload has. -/
  | checksum (actual expected : List UInt8)
deriving DecidableEq, Repr

/-- A checksum as a number, least significant byte first. -/
def checksumText (bs : List UInt8) : String :=
  "0x" ++ String.ofList (Numeral.hexadecimal (Numeral.value 256 (bs.reverse.map UInt8.toNat)))

/-- What is reported of a text that is no checked payload, from the outside in. -/
def CheckedError.chain : CheckedError → List String
  | invalidCharacter c =>
    let byte := (utf8 (String.singleton c)).headD 0
    ["decode", s!"invalid base58 character 0x{String.ofList (Numeral.hexadecimal byte.toNat)}"]
  | tooShort length =>
    ["too short",
      s!"base58 decoded data was not long enough, must be at least 4 byte: {length}"]
  | checksum actual expected =>
    ["incorrect checksum",
      s!"base58 checksum {checksumText actual} does not match expected {checksumText expected}"]

def decodeChecked (cs : List Char) : Except CheckedError (List UInt8) :=
  match decode cs with
  | .error c => .error (.invalidCharacter c)
  | .ok bs =>
    if bs.length < 4 then .error (.tooShort bs.length)
    else
      let payload := bs.take (bs.length - 4)
      let actual := bs.drop (bs.length - 4)
      if actual = checksum payload then .ok payload
      else .error (.checksum actual (checksum payload))

end WalletRecovery.Base58
