import WalletRecovery.Numeral

/-!
# Double-precision numbers

The 64-bit binary format, as exact numbers `significand * 2 ^ exponent`, and the one nearest to a
written decimal.
-/

namespace WalletRecovery

inductive Binary64 where
  | finite (negative : Bool) (significand : Nat) (exponent : Int)
  | infinity (negative : Bool)
  | nan
deriving DecidableEq, Repr

namespace Binary64

def leastExponent : Int := -1074

def greatestExponent : Int := 971

/-- The whole number nearest to a quotient; of two equally near ones the even one. -/
def roundQuotient (num den : Nat) : Nat :=
  let q := num / den
  let r := 2 * (num % den)
  if den < r ∨ (r = den ∧ q % 2 = 1) then q + 1 else q

def ofQuotient (negative : Bool) (num den : Nat) : Binary64 :=
  let guess : Int := (Nat.log2 num : Int) - Nat.log2 den
  let above := den <<< guess.toNat ≤ num <<< (-guess).toNat
  let exponent := max ((if above then guess else guess - 1) - 52) leastExponent
  let rounded := roundQuotient (num <<< (-exponent).toNat) (den <<< exponent.toNat)
  let (significand, exponent) :=
    if rounded = 1 <<< 53 then (1 <<< 52, exponent + 1) else (rounded, exponent)
  if greatestExponent < exponent then infinity negative
  else finite negative significand exponent

/-- The number nearest to `digits * 10 ^ exponent`. -/
def ofDecimal (negative : Bool) (digits : Nat) (exponent : Int) : Binary64 :=
  let magnitude := (Numeral.decimal digits).length + exponent
  if digits = 0 ∨ magnitude < -400 then finite negative 0 leastExponent
  else if 400 < magnitude then infinity negative
  else ofQuotient negative (digits * Nat.pow 10 exponent.toNat) (Nat.pow 10 (-exponent).toNat)

end Binary64

end WalletRecovery
