import WalletRecovery.Proofs.Time.Timestamp

/-! # What the strict reader takes

Where a piece of a timestamp was taken, it stood at the front of the text as the format has it:
numbers at full width, and nothing between them but marks. -/

namespace WalletRecovery.Scan

open Text

variable {cs rest : List Char} {n : ℕ}

theorem exists_digits_of_takes_number {width : ℕ} (h : Takes (number width width) cs n rest) :
    ∃ ds, (∀ c ∈ ds, Numeral.isDigit c = true) ∧ ds.length = width ∧
      n = Numeral.ofDecimal ds ∧ cs = ds ++ rest := by
  rw [Takes, number] at h
  split at h
  · cases h
  split at h
  · cases h
  · next hlength =>
    obtain ⟨rfl, rfl⟩ := Prod.mk.inj (Except.ok.inj h)
    have hle : ((cs.take width).takeWhile Numeral.isDigit).length ≤ width :=
      ((List.takeWhile_prefix _).length_le).trans (List.length_take_le width cs)
    refine ⟨_, fun c => List.mem_takeWhile_imp, by omega, rfl, ?_⟩
    have hprefix := (List.takeWhile_prefix Numeral.isDigit).trans (List.take_prefix width cs)
    exact (List.prefix_iff_eq_append.mp hprefix).symm

theorem exists_digits_of_takes_numberWithin {width low high : ℕ}
    (h : Takes (numberWithin width width low high) cs n rest) :
    (low ≤ n ∧ n ≤ high) ∧ ∃ ds, (∀ c ∈ ds, Numeral.isDigit c = true) ∧ ds.length = width ∧
      n = Numeral.ofDecimal ds ∧ cs = ds ++ rest := by
  obtain ⟨m, mid, hnumber, hwithin⟩ := exists_takes_of_bind h
  split at hwithin
  · next hbounds =>
    obtain ⟨rfl, rfl⟩ := Prod.mk.inj (Except.ok.inj hwithin)
    exact ⟨hbounds, exists_digits_of_takes_number hnumber⟩
  · cases hwithin

theorem eq_cons_of_takes_mark {c : Char} {x : Unit} (h : Takes (mark c) cs x rest) :
    cs = c :: rest := by
  cases cs with
  | nil => cases h
  | cons d cs =>
    rw [Takes, mark] at h
    split at h
    · next hd =>
      obtain ⟨-, rfl⟩ := Prod.mk.inj (Except.ok.inj h)
      rw [hd]
    · cases h

theorem exists_cons_of_takes_separator {x : Unit} (h : Takes separator cs x rest) :
    ∃ c, (c = 'T' ∨ c = 't' ∨ c = ' ') ∧ cs = c :: rest := by
  cases cs with
  | nil => cases h
  | cons d cs =>
    rw [Takes, separator] at h
    split at h
    · next hd =>
      obtain ⟨-, rfl⟩ := Prod.mk.inj (Except.ok.inj h)
      exact ⟨d, hd, rfl⟩
    · cases h

/-- Digits stand behind a point, or there is no fraction. -/
theorem takes_fraction_cases {nanos : ℕ} (h : Takes fraction cs nanos rest) :
    (nanos = 0 ∧ rest = cs ∧ ∀ tail, cs ≠ '.' :: tail) ∨
      ∃ ds, (∀ c ∈ ds, Numeral.isDigit c = true) ∧ ds ≠ [] ∧ StopsDigits rest ∧
        nanos = Numeral.ofDecimal (ds.take 9) * 10 ^ (9 - (ds.take 9).length) ∧
        cs = '.' :: (ds ++ rest) := by
  rw [Takes, fraction.eq_def] at h
  split at h
  · next tail =>
    right
    dsimp only at h
    split at h
    · cases h
    split at h
    · cases h
    · next hne =>
      obtain ⟨rfl, rfl⟩ := Prod.mk.inj (Except.ok.inj h)
      refine ⟨_, fun c => List.mem_takeWhile_imp, hne, ?_, rfl, ?_⟩
      · exact List.takeWhile_eq_nil_iff.mpr fun hpos => by
          simpa using List.dropWhile_get_zero_not Numeral.isDigit tail hpos
      · rw [List.takeWhile_append_dropWhile]
  · next hpoint =>
    obtain ⟨rfl, rfl⟩ := Prod.mk.inj (Except.ok.inj h)
    exact Or.inl ⟨rfl, rfl, hpoint⟩

theorem exists_digits_of_takes_twoDigits (h : Takes twoDigits cs n rest) :
    ∃ a b, Numeral.isDigit a = true ∧ Numeral.isDigit b = true ∧
      n = Numeral.ofDecimal [a, b] ∧ cs = a :: b :: rest := by
  match cs with
  | [] => cases h
  | [a] =>
    rw [Takes, twoDigits.eq_def] at h
    split at h <;> cases h
  | a :: b :: tail =>
    rw [Takes, twoDigits] at h
    split at h
    · cases h
    split at h
    · next hdigits =>
      obtain ⟨ha, hb⟩ := Bool.and_eq_true_iff.mp hdigits
      obtain ⟨rfl, rfl⟩ := Prod.mk.inj (Except.ok.inj h)
      exact ⟨a, b, ha, hb, rfl, rfl⟩
    · cases h

theorem exists_cons_of_takes_sign {factor : ℤ} (h : Takes sign cs factor rest) :
    ∃ c, cs = c :: rest ∧ (c = '+' ∧ factor = 1 ∨ (c = '-' ∨ c = '\u2212') ∧ factor = -1) := by
  cases cs with
  | nil => cases h
  | cons c cs =>
    rw [Takes, sign] at h
    split at h
    · next hplus =>
      obtain ⟨rfl, rfl⟩ := Prod.mk.inj (Except.ok.inj h)
      exact ⟨c, rfl, Or.inl ⟨hplus, rfl⟩⟩
    split at h
    · next hminus =>
      obtain ⟨rfl, rfl⟩ := Prod.mk.inj (Except.ok.inj h)
      exact ⟨c, rfl, Or.inr ⟨hminus, rfl⟩⟩
    · cases h

end WalletRecovery.Scan
