/-!
# The base field of secp256k1

Numbers modulo the prime `2^256 - 2^32 - 977`.  Powers are taken by squaring; inverses and square
roots are powers, because the modulus is prime and leaves 3 modulo 4.
-/

namespace WalletRecovery.Curve

def prime : Nat :=
  0xfffffffffffffffffffffffffffffffffffffffffffffffffffffffefffffc2f

-- The zero is the numeral, whatever other zeros of the numbers are in scope.
instance : @NeZero Nat Zero.ofOfNat0 prime := ⟨by decide⟩

abbrev Field := Fin prime

namespace Field

def ofNat (n : Nat) : Field :=
  Fin.ofNat prime n

/-- Raises an element to the power given by the `k` lowest bits of `e`. -/
def power (x : Field) (e : Nat) : Nat → Field
  | 0 => 1
  | k + 1 =>
    let root := power x (e / 2) k
    if e % 2 = 1 then root * root * x else root * root

/-- The inverse of an element, and zero for zero. -/
def inverse (x : Field) : Field :=
  power x (prime - 2) 256

def sqrt? (x : Field) : Option Field :=
  let root := power x ((prime + 1) / 4) 256
  if root * root = x then some root else none

theorem mul_self_of_sqrt? {x y : Field} (h : sqrt? x = some y) : y * y = x := by
  simp only [sqrt?, Option.ite_none_right_eq_some, Option.some.injEq] at h
  rw [← h.2]
  exact h.1

end Field

end WalletRecovery.Curve
