import WalletRecovery.Curve.Scalar
import Mathlib.NumberTheory.LucasPrimality
import Mathlib.Data.List.Prime
import Mathlib.FieldTheory.Finite.Basic
import Mathlib.Tactic.NormNum.Prime

/-! # The moduli of the curve are prime

A number is prime if enough of its predecessor is factored and one base has no small order.
Only a part beyond the square root has to be factored, so each certificate is a few primes,
and powers are taken by squaring so that the kernel evaluates the test. -/

namespace WalletRecovery.Curve

/-- The power of a number modulo another, by the `k` lowest bits of the exponent. -/
def powerMod (m a e : ℕ) : ℕ → ℕ
  | 0 => 1 % m
  | k + 1 =>
    let root := powerMod m a (e / 2) k
    if e % 2 = 1 then root * root * a % m else root * root % m

theorem mod_two_pow_succ (e k : ℕ) : e % 2 ^ (k + 1) = 2 * (e / 2 % 2 ^ k) + e % 2 := by
  rw [pow_succ', Nat.mod_mul]
  omega

theorem powerMod_eq (m a e k : ℕ) : powerMod m a e k = a ^ (e % 2 ^ k) % m := by
  induction k generalizing e with
  | zero => simp [powerMod, Nat.mod_one]
  | succ k ih =>
    simp only [powerMod, ih, mod_two_pow_succ e k]
    rcases Nat.mod_two_eq_zero_or_one e with h | h
    · rw [if_neg (by omega), h, add_zero, two_mul, pow_add, ← Nat.mul_mod]
    · rw [if_pos h, h, pow_succ, two_mul, pow_add]
      simp [Nat.mul_mod]

/-- The test that makes `n` prime: the primes `qs` multiply to a divisor of `n - 1` beyond its
square root, and the order of `a` modulo any factor of `n` is a multiple of that divisor. -/
def OrderTest (n a : ℕ) (qs : List ℕ) : Prop :=
  1 < n ∧ n ≤ 2 ^ 256 ∧ qs.prod ∣ n - 1 ∧ n < qs.prod * qs.prod ∧
    powerMod n a (n - 1) 256 = 1 ∧
    ∀ q ∈ qs, Nat.gcd (powerMod n a ((n - 1) / q) 256 + (n - 1)) n = 1

instance (n a : ℕ) (qs : List ℕ) : Decidable (OrderTest n a qs) :=
  inferInstanceAs (Decidable (_ ∧ _))

/-- Every prime factor of a tested number leaves one modulo the factored part. -/
theorem OrderTest.prod_dvd {n a : ℕ} {qs : List ℕ} (ht : OrderTest n a qs)
    (hq : ∀ q ∈ qs, q.Prime) {l : ℕ} (hl : l.Prime) (hd : l ∣ n) : qs.prod ∣ l - 1 := by
  obtain ⟨h1, hn, hF, -, hone, hgcd⟩ := ht
  have : Fact l.Prime := ⟨hl⟩
  have hcast (e : ℕ) (he : e ≤ n - 1) :
      ((powerMod n a e 256 : ℕ) : ZMod l) = (a : ZMod l) ^ e := by
    rw [powerMod_eq, Nat.mod_eq_of_lt (show e < 2 ^ 256 by omega), ← Nat.cast_pow,
      ZMod.natCast_eq_natCast_iff]
    exact (Nat.mod_modEq _ _).of_dvd hd
  have hpow : (a : ZMod l) ^ (n - 1) = 1 := by
    rw [← hcast _ le_rfl, hone, Nat.cast_one]
  obtain ⟨c, hc⟩ := hF
  have hF0 : 0 < qs.prod := List.prod_pos fun q h => (hq q h).pos
  have horder : orderOf ((a : ZMod l) ^ c) = qs.prod := by
    refine orderOf_eq_of_pow_and_pow_div_prime hF0 ?_ ?_
    · rw [← pow_mul, mul_comm, ← hc, hpow]
    · intro q hp hdvd heq
      obtain ⟨r, hr, hqr⟩ := (Prime.dvd_prod_iff hp.prime).mp hdvd
      obtain rfl := (Nat.prime_dvd_prime_iff_eq hp (hq r hr)).mp hqr
      have hexp : c * (qs.prod / q) = (n - 1) / q := by
        rw [hc, mul_comm qs.prod, Nat.mul_div_assoc _ hdvd]
      rw [← pow_mul, hexp, ← hcast _ (Nat.div_le_self _ _)] at heq
      have hz : ((powerMod n a ((n - 1) / q) 256 + (n - 1) : ℕ) : ZMod l) = 0 := by
        have hn0 : ((n : ℕ) : ZMod l) = 0 := (ZMod.natCast_eq_zero_iff n l).mpr hd
        rw [Nat.cast_add, heq, Nat.cast_sub h1.le, hn0]
        simp
      have := Nat.dvd_gcd ((ZMod.natCast_eq_zero_iff _ _).mp hz) hd
      rw [hgcd q hr] at this
      exact hl.one_lt.ne' (Nat.dvd_one.mp this)
  have hunit : (a : ZMod l) ≠ 0 := by
    intro h0
    rw [h0, zero_pow (by omega)] at hpow
    exact zero_ne_one hpow
  rw [← horder]
  exact ZMod.orderOf_dvd_card_sub_one (pow_ne_zero c hunit)

theorem OrderTest.prime {n a : ℕ} {qs : List ℕ} (ht : OrderTest n a qs)
    (hq : ∀ q ∈ qs, q.Prime) : n.Prime := by
  by_contra hn
  have h1 : n ≠ 1 := ht.1.ne'
  have hl := Nat.minFac_prime h1
  have hle := Nat.le_of_dvd (by have := hl.two_le; omega) (ht.prod_dvd hq hl (Nat.minFac_dvd n))
  have hsq := Nat.minFac_sq_le_self (by have := ht.1; omega) hn
  have hlt := ht.2.2.2.1
  have : qs.prod * qs.prod ≤ n.minFac ^ 2 := by
    rw [sq]
    exact Nat.mul_le_mul (by omega) (by omega)
  omega

private theorem large_factor_of_prime :
    Nat.Prime 205115282021455665897114700593932402728804164701536103180137503955397371 := by
  have h : Nat.Prime 255515944373312847190720520512484175977 := by
    have ht : OrderTest 255515944373312847190720520512484175977 3
        [96557, 7240687, 107590001] := by decide +kernel
    refine ht.prime ?_
    rw [List.forall_mem_cons, List.forall_mem_cons, List.forall_mem_singleton]
    norm_num
  have ht : OrderTest 205115282021455665897114700593932402728804164701536103180137503955397371 10
      [255515944373312847190720520512484175977] := by decide +kernel
  refine ht.prime ?_
  rwa [List.forall_mem_singleton]

theorem prime_prime : Nat.Prime prime := by
  have ht : OrderTest prime 3
      [205115282021455665897114700593932402728804164701536103180137503955397371] := by
    decide +kernel
  refine ht.prime ?_
  rw [List.forall_mem_singleton]
  exact large_factor_of_prime

private theorem large_factor_of_order : Nat.Prime 341948486974166000522343609283189 := by
  have h₁ : Nat.Prime 545358713 := by
    have ht : OrderTest 545358713 5 [28181] := by decide +kernel
    refine ht.prime ?_
    rw [List.forall_mem_singleton]
    norm_num
  have h₂ : Nat.Prime 29047611873442575647497758179 := by
    have ht : OrderTest 29047611873442575647497758179 2 [305873, 545358713, 293] := by
      decide +kernel
    refine ht.prime ?_
    rw [List.forall_mem_cons, List.forall_mem_cons, List.forall_mem_singleton]
    exact ⟨by norm_num, h₁, by norm_num⟩
  have ht : OrderTest 341948486974166000522343609283189 2
      [29047611873442575647497758179] := by decide +kernel
  refine ht.prime ?_
  rwa [List.forall_mem_singleton]

theorem order_prime : Nat.Prime order := by
  have h : Nat.Prime 107361793816595537 := by
    have ht : OrderTest 107361793816595537 3 [85831, 4681609] := by decide +kernel
    refine ht.prime ?_
    rw [List.forall_mem_cons, List.forall_mem_singleton]
    norm_num
  have ht : OrderTest order 7 [107361793816595537, 341948486974166000522343609283189] := by
    decide +kernel
  refine ht.prime ?_
  rw [List.forall_mem_cons, List.forall_mem_singleton]
  exact ⟨h, large_factor_of_order⟩

end WalletRecovery.Curve
