/-!
# Positional numerals

Numbers and their digit lists in an arbitrary base, most significant digit first.  `digits` writes
no leading zero (so zero has no digits at all), `fixed` writes a given number of digits, and
`value` reads both back.  Decimal and hexadecimal texts are built on them.
-/

namespace WalletRecovery.Numeral

def value (b : Nat) (ds : List Nat) : Nat :=
  ds.foldl (fun n d => n * b + d) 0

/-- Puts the digits of `n` in front of `rest`, taking at most `fuel` of them. -/
def digitsOnto (b : Nat) : Nat → Nat → List Nat → List Nat
  | 0, _, rest => rest
  | fuel + 1, n, rest => if n = 0 then rest else digitsOnto b fuel (n / b) (n % b :: rest)

/-- The digits of `n` in base `b` without leading zeros.  A number never has more digits than its
own size, so the bound on the recursion is not felt for `b ≥ 2`. -/
def digits (b n : Nat) : List Nat :=
  digitsOnto b n n []

def fixedOnto (b : Nat) : Nat → Nat → List Nat → List Nat
  | 0, _, rest => rest
  | k + 1, n, rest => fixedOnto b k (n / b) (n % b :: rest)

/-- The `k` lowest digits of `n` in base `b`, with leading zeros where `n` is short. -/
def fixed (b k n : Nat) : List Nat :=
  fixedOnto b k n []

theorem length_fixedOnto (b k n : Nat) (rest : List Nat) :
    (fixedOnto b k n rest).length = k + rest.length := by
  induction k generalizing n rest with
  | zero => simp [fixedOnto]
  | succ k ih => simp only [fixedOnto, ih, List.length_cons]; omega

@[simp] theorem length_fixed (b k n : Nat) : (fixed b k n).length = k := by
  simp [fixed, length_fixedOnto]

def digitChar (d : Nat) : Char :=
  Char.ofNat (48 + d)

def isDigit (c : Char) : Bool :=
  48 ≤ c.toNat && c.toNat ≤ 57

/-- The decimal text of a number, without leading zeros; zero is a lone `0`. -/
def decimal (n : Nat) : List Char :=
  if n = 0 then ['0'] else (digits 10 n).map digitChar

/-- The decimal text of a number, filled up with zeros to at least `width` characters. -/
def padded (width n : Nat) : List Char :=
  List.replicate (width - (decimal n).length) '0' ++ decimal n

def ofDecimal (cs : List Char) : Nat :=
  value 10 (cs.map fun c => c.toNat - 48)

def signed (n : Int) : List Char :=
  if n < 0 then '-' :: decimal n.natAbs else decimal n.natAbs

def hexChar (d : Nat) : Char :=
  if d < 10 then Char.ofNat (48 + d) else Char.ofNat (87 + d)

def hexValue? (c : Char) : Option Nat :=
  if isDigit c then some (c.toNat - 48)
  else if 97 ≤ c.toNat ∧ c.toNat ≤ 102 then some (c.toNat - 87)
  else if 65 ≤ c.toNat ∧ c.toNat ≤ 70 then some (c.toNat - 55)
  else none

def hexadecimal (n : Nat) : List Char :=
  if n = 0 then ['0'] else (digits 16 n).map hexChar

end WalletRecovery.Numeral
