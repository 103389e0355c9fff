import WalletRecovery.Bytes
import Mathlib.Data.Nat.Digits.Lemmas
import Mathlib.Data.List.GetD
import Mathlib.Data.List.TakeWhile
import Mathlib.Tactic.IntervalCases

/-! # Numerals read back

The digit lists of the library are Mathlib's, most significant digit first. A number is the value of
its digits, and a list of digits is that of its value apart from leading zeros. Decimal texts and
byte strings of fixed length inherit both directions. -/

namespace WalletRecovery.Numeral

variable {b : ℕ}

theorem map_eq_self {α : Type} {f : α → α} {l : List α} (h : ∀ a ∈ l, f a = a) : l.map f = l :=
  (List.map_congr_left h).trans (List.map_id' l)

theorem value_eq (b : ℕ) (ds : List ℕ) : value b ds = Nat.ofDigits b ds.reverse := by
  rw [value, Nat.ofDigits_eq_foldr, List.foldr_reverse]
  simp only [Nat.cast_id, Nat.mul_comm b, Nat.add_comm]

theorem value_concat (b : ℕ) (ds : List ℕ) (d : ℕ) : value b (ds ++ [d]) = value b ds * b + d := by
  simp [value]

theorem value_cons_zero (b : ℕ) (ds : List ℕ) : value b (0 :: ds) = value b ds := by
  simp [value]

theorem value_dropWhile_zero (b : ℕ) (ds : List ℕ) :
    value b (ds.dropWhile (· = 0)) = value b ds := by
  induction ds with
  | nil => rfl
  | cons d ds ih =>
    by_cases hd : d = 0
    · subst d
      simpa [value_cons_zero] using ih
    · simp [hd]

theorem value_lt (hb : 1 < b) {ds : List ℕ} (hlt : ∀ d ∈ ds, d < b) :
    value b ds < b ^ ds.length := by
  rw [value_eq, ← List.length_reverse]
  exact Nat.ofDigits_lt_base_pow_length hb (fun d hd => hlt d (List.mem_reverse.mp hd))

theorem digitsOnto_eq (hb : 1 < b) {fuel n : ℕ} (hn : n ≤ fuel) (rest : List ℕ) :
    digitsOnto b fuel n rest = (Nat.digits b n).reverse ++ rest := by
  induction fuel generalizing n rest with
  | zero =>
    obtain rfl := Nat.le_zero.mp hn
    simp [digitsOnto]
  | succ fuel ih =>
    by_cases h0 : n = 0
    · subst n
      simp [digitsOnto]
    · have hpos := Nat.pos_of_ne_zero h0
      have hdiv : n / b ≤ fuel := by
        have := Nat.div_lt_self hpos hb
        omega
      rw [digitsOnto, if_neg h0, ih hdiv, Nat.digits_def' hb hpos]
      simp

theorem digits_eq (hb : 1 < b) (n : ℕ) : digits b n = (Nat.digits b n).reverse := by
  rw [digits, digitsOnto_eq hb (Nat.le_refl n), List.append_nil]

theorem digits_lt (hb : 1 < b) {n d : ℕ} (hd : d ∈ digits b n) : d < b := by
  rw [digits_eq hb, List.mem_reverse] at hd
  exact Nat.digits_lt_base hb hd

theorem value_digits (hb : 1 < b) (n : ℕ) : value b (digits b n) = n := by
  rw [value_eq, digits_eq hb, List.reverse_reverse, Nat.ofDigits_digits]

theorem ne_zero_of_digits_eq_cons (hb : 1 < b) {n d : ℕ} {ds : List ℕ}
    (h : digits b n = d :: ds) : d ≠ 0 := by
  have hne : n ≠ 0 := by
    rintro rfl
    cases h
  have hlast := Nat.getLast_digit_ne_zero b hne
  have hdigits : Nat.digits b n = ds.reverse ++ [d] := by
    rw [← List.reverse_reverse (Nat.digits b n), ← digits_eq hb, h, List.reverse_cons]
  simpa [hdigits] using hlast

/-- A list of digits is that of its value, apart from leading zeros. -/
theorem digits_value (hb : 1 < b) {ds : List ℕ} (hlt : ∀ d ∈ ds, d < b) :
    digits b (value b ds) = ds.dropWhile (· = 0) := by
  rw [← value_dropWhile_zero, digits_eq hb, value_eq, Nat.digits_ofDigits b hb,
    List.reverse_reverse]
  · intro d hd
    exact hlt d ((List.dropWhile_sublist _).subset (List.mem_reverse.mp hd))
  · intro hne
    rw [List.getLast_reverse]
    simpa using
      List.head_dropWhile_not (fun d : ℕ => decide (d = 0)) (List.reverse_ne_nil_iff.mp hne)

/-- The digits in base `b'` of the number that a list in base `b` stands for, with as many zeros
in front as that list has. -/
def rebase (b b' : ℕ) (ds : List ℕ) : List ℕ :=
  List.replicate (ds.takeWhile (· = 0)).length 0 ++ digits b' (value b ds)

theorem replicate_takeWhile_zero (ds : List ℕ) :
    List.replicate (ds.takeWhile (· = 0)).length 0 = ds.takeWhile (· = 0) := by
  apply Eq.symm
  rw [List.eq_replicate_length]
  intro d hd
  simpa using List.mem_takeWhile_imp hd

/-- Zeros and the digits of a number part at the last of the zeros. -/
theorem takeWhile_zero_append_digits (hb : 1 < b) (k n : ℕ) :
    (List.replicate k 0 ++ digits b n).takeWhile (· = 0) = List.replicate k 0 := by
  rw [List.takeWhile_append_of_pos (by simp)]
  have hnone : (digits b n).takeWhile (· = 0) = [] := by
    cases h : digits b n with
    | nil => rfl
    | cons d ds => simp [ne_zero_of_digits_eq_cons hb h]
  rw [hnone, List.append_nil]

theorem value_replicate_zero_append (b k : ℕ) (ds : List ℕ) :
    value b (List.replicate k 0 ++ ds) = value b ds := by
  induction k with
  | zero => rfl
  | succ k ih => rw [List.replicate_succ, List.cons_append, value_cons_zero, ih]

theorem rebase_lt {b' : ℕ} (hb' : 1 < b') {ds : List ℕ} {d : ℕ} (hd : d ∈ rebase b b' ds) :
    d < b' := by
  rw [rebase, List.mem_append] at hd
  rcases hd with hd | hd
  · rw [List.eq_of_mem_replicate hd]
    omega
  · exact digits_lt hb' hd

/-- Changing the base is undone by changing it back. -/
theorem rebase_rebase {b' : ℕ} (hb : 1 < b) (hb' : 1 < b') {ds : List ℕ} (hlt : ∀ d ∈ ds, d < b) :
    rebase b' b (rebase b b' ds) = ds := by
  rw [rebase, rebase, takeWhile_zero_append_digits hb', List.length_replicate,
    value_replicate_zero_append, value_digits hb', digits_value hb hlt, replicate_takeWhile_zero]
  exact List.takeWhile_append_dropWhile

theorem fixedOnto_eq (b k n : ℕ) (rest : List ℕ) : fixedOnto b k n rest = fixed b k n ++ rest := by
  induction k generalizing n rest with
  | zero => rfl
  | succ k ih =>
    rw [fixed, fixedOnto, fixedOnto, ih, ih _ [n % b], List.append_assoc]
    rfl

theorem fixed_succ (b k n : ℕ) : fixed b (k + 1) n = fixed b k (n / b) ++ [n % b] :=
  fixedOnto_eq b k (n / b) [n % b]

theorem fixed_lt (hb : 0 < b) {k n d : ℕ} (hd : d ∈ fixed b k n) : d < b := by
  induction k generalizing n with
  | zero => cases hd
  | succ k ih =>
    rw [fixed_succ, List.mem_append, List.mem_singleton] at hd
    rcases hd with hd | rfl
    · exact ih hd
    · exact Nat.mod_lt n hb

theorem value_fixed (b k n : ℕ) : value b (fixed b k n) = n % b ^ k := by
  induction k generalizing n with
  | zero => simp [fixed, fixedOnto, value, Nat.mod_one]
  | succ k ih =>
    rw [fixed_succ, value_concat, ih, pow_succ', Nat.mod_mul]
    ring

theorem fixed_value {ds : List ℕ} (hlt : ∀ d ∈ ds, d < b) :
    fixed b ds.length (value b ds) = ds := by
  induction ds using List.reverseRecOn with
  | nil => rfl
  | append_singleton ds d ih =>
    have hd : d < b := hlt d (by simp)
    have hds : ∀ e ∈ ds, e < b := fun e he => hlt e (by simp [he])
    rw [List.length_append, List.length_singleton, fixed_succ, value_concat, Nat.mul_comm,
      Nat.mul_add_div (by omega), Nat.mul_add_mod, Nat.div_eq_of_lt hd, Nat.mod_eq_of_lt hd,
      Nat.add_zero, ih hds]

theorem fixed_add (b j k n : ℕ) : fixed b (j + k) n = fixed b j (n / b ^ k) ++ fixed b k n := by
  induction k generalizing n with
  | zero => rw [Nat.add_zero, pow_zero, Nat.div_one, fixed, fixed, fixedOnto, List.append_nil]
  | succ k ih =>
    rw [← Nat.add_assoc, fixed_succ, fixed_succ, ih, Nat.div_div_eq_div_mul, ← pow_succ',
      List.append_assoc]

theorem fixed_mod (b k n : ℕ) : fixed b k (n % b ^ k) = fixed b k n := by
  induction k generalizing n with
  | zero => rfl
  | succ k ih =>
    have hdiv : n % b ^ (k + 1) / b = n / b % b ^ k := by
      rw [pow_succ', Nat.mod_mul_right_div_self]
    have hmod : n % b ^ (k + 1) % b = n % b := Nat.mod_mod_of_dvd n (dvd_pow_self b (by omega))
    rw [fixed_succ, fixed_succ, hdiv, hmod, ih]

theorem fixed_eq_fixed_iff {k m n : ℕ} : fixed b k m = fixed b k n ↔ m % b ^ k = n % b ^ k := by
  constructor
  · intro h
    rw [← value_fixed, h, value_fixed]
  · intro h
    rw [← fixed_mod, h, fixed_mod]

theorem fixed_zero (b k : ℕ) : fixed b k 0 = List.replicate k 0 := by
  induction k with
  | zero => rfl
  | succ k ih => rw [fixed_succ, Nat.zero_div, Nat.zero_mod, ih, List.replicate_succ']

/-- Digits in a power of a base are groups of digits in that base. -/
theorem flatMap_fixed (b j k n : ℕ) :
    (fixed (b ^ j) k n).flatMap (fixed b j) = fixed b (j * k) n := by
  induction k generalizing n with
  | zero => rfl
  | succ k ih =>
    rw [fixed_succ, List.flatMap_append, List.flatMap_singleton, ih, fixed_mod, Nat.mul_succ,
      fixed_add]

theorem idxOf?_getD {alphabet : List Char} (hnodup : alphabet.Nodup) {d : ℕ}
    (hd : d < alphabet.length) (c : Char) : alphabet.idxOf? (alphabet.getD d c) = some d := by
  rw [List.getD_eq_getElem _ _ hd, List.idxOf?_eq_some_iff]
  refine ⟨hd, rfl, ?_⟩
  intro j hj heq
  have hij := hnodup.getElem_inj_iff.mp heq
  omega

/-! ## Decimal texts -/

theorem toNat_digitChar {d : ℕ} (hd : d < 10) : (digitChar d).toNat = 48 + d := by
  interval_cases d <;> rfl

theorem digitChar_of_isDigit {c : Char} (hc : isDigit c = true) : digitChar (c.toNat - 48) = c := by
  simp only [isDigit, Bool.and_eq_true, decide_eq_true_eq] at hc
  rw [digitChar, Nat.add_sub_cancel' hc.1, Char.ofNat_toNat]

theorem isDigit_digitChar {d : ℕ} (hd : d < 10) : isDigit (digitChar d) = true := by
  rw [isDigit, toNat_digitChar hd]
  simp only [Bool.and_eq_true, decide_eq_true_eq]
  omega

theorem isDigit_of_mem_decimal {n : ℕ} {c : Char} (hc : c ∈ decimal n) : isDigit c = true := by
  rw [decimal] at hc
  split at hc
  · obtain rfl := List.mem_singleton.mp hc
    rfl
  · obtain ⟨d, hd, rfl⟩ := List.mem_map.mp hc
    exact isDigit_digitChar (digits_lt (by decide) hd)

theorem ofDecimal_decimal (n : ℕ) : ofDecimal (decimal n) = n := by
  rw [decimal, ofDecimal]
  split
  · next h => rw [h]; rfl
  · rw [List.map_map]
    have hmap : (digits 10 n).map ((fun c => c.toNat - 48) ∘ digitChar) = digits 10 n := by
      apply map_eq_self
      intro d hd
      rw [Function.comp_apply, toNat_digitChar (digits_lt (by decide) hd)]
      omega
    rw [hmap, value_digits (by decide)]

theorem decimal_eq_if (n : ℕ) :
    decimal n = if n < 10 then [digitChar n] else decimal (n / 10) ++ [digitChar (n % 10)] := by
  by_cases h0 : n = 0
  · subst n
    rfl
  · have hstep : digits 10 n = digits 10 (n / 10) ++ [n % 10] := by
      rw [digits_eq (by decide), digits_eq (by decide), Nat.digits_def' (by decide) (by omega),
        List.reverse_cons]
    rw [decimal, if_neg h0, hstep]
    split
    · next h => simp [Nat.div_eq_of_lt h, Nat.mod_eq_of_lt h, digits, digitsOnto]
    · next h =>
      have hdiv : n / 10 ≠ 0 := by omega
      rw [decimal, if_neg hdiv, List.map_append, List.map_singleton]

theorem length_decimal_le {n k : ℕ} (h : n < 10 ^ (k + 1)) : (decimal n).length ≤ k + 1 := by
  induction k generalizing n with
  | zero =>
    rw [decimal_eq_if, if_pos (by omega)]
    exact Nat.le_refl 1
  | succ k ih =>
    rw [decimal_eq_if]
    split
    · exact Nat.succ_le_succ (Nat.zero_le _)
    · have hlt : n / 10 < 10 ^ (k + 1) := by
        rw [Nat.div_lt_iff_lt_mul (by decide), ← Nat.pow_succ]
        exact h
      have hle := ih hlt
      rw [List.length_append, List.length_singleton]
      omega

theorem isDigit_of_mem_padded {width n : ℕ} {c : Char} (hc : c ∈ padded width n) :
    isDigit c = true := by
  rcases List.mem_append.mp hc with hc | hc
  · obtain rfl := List.eq_of_mem_replicate hc
    decide
  · exact isDigit_of_mem_decimal hc

theorem ofDecimal_padded (width n : ℕ) : ofDecimal (padded width n) = n := by
  rw [ofDecimal, padded, List.map_append, List.map_replicate]
  change value 10 (List.replicate _ 0 ++ _) = n
  rw [value_replicate_zero_append]
  exact ofDecimal_decimal n

theorem le_length_padded (width n : ℕ) : width ≤ (padded width n).length := by
  rw [padded, List.length_append, List.length_replicate]
  omega

theorem length_padded {n k : ℕ} (h : n < 10 ^ (k + 1)) : (padded (k + 1) n).length = k + 1 := by
  have hle := length_decimal_le h
  rw [padded, List.length_append, List.length_replicate]
  omega

theorem ofDecimal_lt {cs : List Char} (h : ∀ c ∈ cs, isDigit c = true) :
    ofDecimal cs < 10 ^ cs.length := by
  have hlt : ∀ d ∈ cs.map fun c => c.toNat - 48, d < 10 := by
    intro d hd
    obtain ⟨c, hc, rfl⟩ := List.mem_map.mp hd
    have hdigit := h c hc
    simp only [isDigit, Bool.and_eq_true, decide_eq_true_eq] at hdigit
    omega
  have hvalue := value_lt (by decide) hlt
  rwa [List.length_map] at hvalue

theorem ofDecimal_append_zeros (ds : List Char) (k : ℕ) :
    ofDecimal (ds ++ List.replicate k '0') = ofDecimal ds * 10 ^ k := by
  induction k with
  | zero => simp
  | succ k ih =>
    rw [ofDecimal, List.map_append, List.map_replicate] at ih
    rw [ofDecimal, List.map_append, List.map_replicate, List.replicate_succ', ← List.append_assoc,
      value_concat, ih, Nat.pow_succ, Nat.mul_assoc]
    rfl

theorem toString_eq_decimal (n : ℕ) : toString n = String.ofList (decimal n) := by
  rw [Nat.toString_eq_ofList_toDigits]
  congr 1
  have hchar : ∀ d, d < 10 → Nat.digitChar d = digitChar d := by
    intro d hd
    interval_cases d <;> rfl
  -- both texts are that of the number without its last digit, and this digit
  induction n using Nat.strong_induction_on with
  | _ n ih =>
    rw [Nat.toDigits_eq_if (by decide), decimal_eq_if]
    split
    · next h => rw [hchar n h]
    · rw [ih (n / 10) (by omega), hchar _ (by omega)]

/-- A decimal numeral without leading zeros: a lone zero, or digits of which the first is not
zero. -/
inductive Plain : List Char → Prop where
  | zero : Plain ['0']
  | positive {c : Char} {cs : List Char} : isDigit c = true → c ≠ '0' →
      (∀ d ∈ cs, isDigit d = true) → Plain (c :: cs)

theorem Plain.isDigit {cs : List Char} (h : Plain cs) : ∀ c ∈ cs, isDigit c = true := by
  cases h with
  | zero => simp [Numeral.isDigit]
  | positive hc _ hcs => exact List.forall_mem_cons.mpr ⟨hc, hcs⟩

theorem plain_decimal (n : ℕ) : Plain (decimal n) := by
  have hdigit : ∀ c ∈ decimal n, isDigit c = true := fun c => isDigit_of_mem_decimal
  by_cases h0 : n = 0
  · subst n
    exact .zero
  · have hvalue := value_digits (b := 10) (by decide) n
    rw [decimal, if_neg h0] at hdigit ⊢
    cases hds : digits 10 n with
    | nil =>
      rw [hds] at hvalue
      exact absurd hvalue.symm h0
    | cons d ds =>
      rw [hds] at hdigit
      have hd : d < 10 := digits_lt (by decide) (hds ▸ List.mem_cons_self)
      have hne : d ≠ 0 := ne_zero_of_digits_eq_cons (by decide) hds
      obtain ⟨hc, hcs⟩ := List.forall_mem_cons.mp hdigit
      refine .positive hc ?_ hcs
      intro heq
      have hnat := congrArg Char.toNat heq
      rw [toNat_digitChar hd] at hnat
      exact hne (by simpa using hnat)

theorem Plain.decimal_ofDecimal {cs : List Char} (h : Plain cs) : decimal (ofDecimal cs) = cs := by
  cases h with
  | zero => rfl
  | @positive c cs hc h0 hcs =>
    have hall : ∀ d ∈ c :: cs, Numeral.isDigit d = true := List.forall_mem_cons.mpr ⟨hc, hcs⟩
    have hback : (c :: cs).map (fun d => digitChar (d.toNat - 48)) = c :: cs :=
      map_eq_self (fun d hd => digitChar_of_isDigit (hall d hd))
    have hlt : ∀ d ∈ (c :: cs).map (fun d => d.toNat - 48), d < 10 := by
      intro d hd
      obtain ⟨e, he, rfl⟩ := List.mem_map.mp hd
      have := hall e he
      simp only [Numeral.isDigit, Bool.and_eq_true, decide_eq_true_eq] at this
      omega
    have hhead : c.toNat - 48 ≠ 0 := by
      intro hz
      apply h0
      rw [← digitChar_of_isDigit hc, hz]
      rfl
    have hdigits : digits 10 (ofDecimal (c :: cs)) = (c :: cs).map fun d => d.toNat - 48 := by
      rw [ofDecimal, digits_value (by decide) hlt]
      simp [hhead]
    have hne : ofDecimal (c :: cs) ≠ 0 := by
      intro hz
      rw [hz] at hdigits
      cases hdigits
    rw [decimal, if_neg hne, hdigits, List.map_map]
    exact hback

/-! ## Hexadecimal texts -/

theorem hexValue?_hexChar {d : ℕ} (hd : d < 16) : hexValue? (hexChar d) = some d := by
  interval_cases d <;> rfl

theorem mapM_hexValue?_hexChar {ds : List ℕ} (hlt : ∀ d ∈ ds, d < 16) :
    (ds.map hexChar).mapM hexValue? = some ds := by
  induction ds with
  | nil => rfl
  | cons d ds ih =>
    obtain ⟨hd, hds⟩ := List.forall_mem_cons.mp hlt
    rw [List.map_cons, List.mapM_cons, hexValue?_hexChar hd, ih hds]
    rfl

end WalletRecovery.Numeral

namespace WalletRecovery.Bytes

variable {n : ℕ}

theorem lt_of_mem_map_toNat {bs : List UInt8} : ∀ d ∈ bs.map UInt8.toNat, d < 256 := by
  intro d hd
  obtain ⟨x, -, rfl⟩ := List.mem_map.mp hd
  exact x.toNat_lt

theorem toNat_lt (a : Bytes n) : a.toNat < 256 ^ n := by
  have h : a.toNat < 256 ^ (a.toList.map UInt8.toNat).length :=
    Numeral.value_lt (by decide) lt_of_mem_map_toNat
  rwa [List.length_map, a.length_eq] at h

theorem map_toNat_ofNat {ds : List ℕ} (h : ∀ d ∈ ds, d < 256) :
    (ds.map UInt8.ofNat).map UInt8.toNat = ds := by
  rw [List.map_map]
  apply Numeral.map_eq_self
  intro d hd
  exact UInt8.toNat_ofNat_of_lt' (h d hd)

theorem map_ofNat_toNat (bs : List UInt8) : (bs.map UInt8.toNat).map UInt8.ofNat = bs := by
  rw [List.map_map]
  apply Numeral.map_eq_self
  intro d _
  exact UInt8.ofNat_toNat

theorem toNat_ofNat {v : ℕ} (h : v < 256 ^ n) : (ofNat n v).toNat = v := by
  rw [toNat, ofNat, map_toNat_ofNat (fun _ => Numeral.fixed_lt (by decide)), Numeral.value_fixed,
    Nat.mod_eq_of_lt h]

theorem ofNat_toNat (a : Bytes n) : ofNat n a.toNat = a := by
  apply Bytes.ext
  have hfixed : Numeral.fixed 256 (a.toList.map UInt8.toNat).length a.toNat =
      a.toList.map UInt8.toNat :=
    Numeral.fixed_value lt_of_mem_map_toNat
  rw [List.length_map, a.length_eq] at hfixed
  change (Numeral.fixed 256 n a.toNat).map UInt8.ofNat = _
  rw [hfixed]
  exact map_ofNat_toNat a.toList

theorem single_byte (a : Bytes 1) : single a.byte = a := by
  obtain ⟨l, hl⟩ := a
  obtain ⟨x, rfl⟩ := List.length_eq_one_iff.mp hl
  rfl

theorem exists_single_append (a : Bytes (1 + n)) : ∃ x rest, a = single x ++ (rest : Bytes n) := by
  refine ⟨a.split.1.byte, a.split.2, ?_⟩
  rw [single_byte, append_split]

theorem toNat_injective : Function.Injective (toNat : Bytes n → ℕ) := by
  intro a b h
  rw [← ofNat_toNat a, h, ofNat_toNat b]

end WalletRecovery.Bytes
