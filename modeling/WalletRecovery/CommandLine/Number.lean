import WalletRecovery.Numeral

/-!
# Numbers on the command line

Windows and heights are written in decimal digits, with or without a sign.  A text is first read as
a signed number of 64 bits and then has to fit into 32 bits.
-/

namespace WalletRecovery.CommandLine

inductive NumberError where
  | empty
  | invalidDigit
  /-- It is above all signed numbers of 64 bits. -/
  | tooLarge
  /-- It is below all signed numbers of 64 bits. -/
  | tooSmall
  /-- It is a signed number of 64 bits, but none of 32 bits. -/
  | outOfRange (n : Int)
deriving DecidableEq, Repr

def NumberError.message : NumberError → String
  | empty => "cannot parse integer from empty string"
  | invalidDigit => "invalid digit found in string"
  | tooLarge => "number too large to fit in target type"
  | tooSmall => "number too small to fit in target type"
  | outOfRange n => s!"{String.ofList (Numeral.signed n)} is not in 0..=4294967295"

/-- Reads digits behind those of `n`, up to a limit.  The first digit that is none and the first one
that leads beyond the limit are both errors; the earlier of them is reported. -/
def readDigits (limit : Nat) (beyond : NumberError) (n : Nat) : List Char → Except NumberError Nat
  | [] => .ok n
  | c :: cs =>
    if Numeral.isDigit c then
      let n := n * 10 + (c.toNat - 48)
      if limit < n then .error beyond else readDigits limit beyond n cs
    else .error .invalidDigit

def readSigned : List Char → Except NumberError Int
  | [] => .error .empty
  | ['+'] => .error .invalidDigit
  | ['-'] => .error .invalidDigit
  | '-' :: cs => (readDigits (0x8000000000000000) .tooSmall 0 cs).map fun n => -(n : Int)
  | '+' :: cs => (readDigits (0x7fffffffffffffff) .tooLarge 0 cs).map fun n => (n : Int)
  | cs => (readDigits (0x7fffffffffffffff) .tooLarge 0 cs).map fun n => (n : Int)

def readNumber (text : String) : Except NumberError UInt32 :=
  match readSigned text.toList with
  | .error e => .error e
  | .ok n => if 0 ≤ n ∧ n < 0x100000000 then .ok (UInt32.ofNat n.toNat) else .error (.outOfRange n)

end WalletRecovery.CommandLine
