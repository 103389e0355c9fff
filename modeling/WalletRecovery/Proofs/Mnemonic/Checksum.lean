import WalletRecovery.Mnemonic.Basic
import WalletRecovery.Proofs.Encoding.Bech32
import WalletRecovery.Proofs.Text.Normalize

/-! # Words that carry a secret

Words carry a secret if their bits are those of the secret, with the first bits of its hash behind
them. A text is a mnemonic exactly if its words carry a secret, and blanks only matter where they
part words. -/

namespace WalletRecovery

/-- The bits of bytes, the highest bit of every byte first. -/
def bitsOf (bs : List UInt8) : List ℕ :=
  bs.flatMap fun x => Numeral.fixed 2 8 x.toNat

theorem bitsOf_injective : Function.Injective bitsOf := by
  intro as bs h
  have has := @Bech32.octets_flatMap as [] (by decide)
  have hbs := @Bech32.octets_flatMap bs [] (by decide)
  rw [List.append_nil] at has hbs
  have hoctets : Bech32.octets (bitsOf as) = Bech32.octets (bitsOf bs) := by rw [h]
  exact congrArg Prod.fst (has.symm.trans (hoctets.trans hbs))

theorem bitsOf_ofNat (n v : ℕ) :
    bitsOf (Bytes.ofNat n v).toList = Numeral.fixed 2 (8 * n) v := by
  have hvalues : ((Numeral.fixed 256 n v).map UInt8.ofNat).map UInt8.toNat =
      Numeral.fixed (2 ^ 8) n v :=
    Bytes.map_toNat_ofNat fun _ => Numeral.fixed_lt (by decide)
  rw [← Numeral.flatMap_fixed, ← hvalues, List.flatMap_map]
  rfl

namespace Mnemonic

def wordBits (words : List String) : List ℕ :=
  words.flatMap fun word => Numeral.fixed 2 11 (wordList.idxOf word)

/-- Whether words carry a secret: their bits are those of the secret, and behind them the first bits
of its hash, one for every three words. -/
structure Carries (words : List String) (secret : List UInt8) : Prop where
  count : words.length ∈ [12, 15, 18, 21, 24]
  listed : ∀ word ∈ words, word ∈ wordList
  bits : wordBits words =
    bitsOf secret ++ (bitsOf (sha256 secret).toList).take (words.length / 3)

theorem indexOf?_eq_some_iff {word : String} {i : ℕ} :
    indexOf? word = some i ↔ word ∈ wordList ∧ i = wordList.idxOf word := by
  rw [indexOf?, List.idxOf_eq_getD_idxOf?]
  cases h : wordList.idxOf? word with
  | none =>
    have hword := List.idxOf?_eq_none_iff.mp h
    simp [hword]
  | some j =>
    have hword : word ∈ wordList := List.isSome_idxOf?.mp (by rw [h]; rfl)
    simp [hword, eq_comm]

theorem indices_eq_ok_iff {position : ℕ} {words : List String} {is : List ℕ} :
    indices position words = .ok is ↔
      (∀ word ∈ words, word ∈ wordList) ∧ is = words.map wordList.idxOf := by
  induction words generalizing position is with
  | nil => simp [indices, eq_comm]
  | cons word words ih =>
    rw [indices]
    cases h : indexOf? word with
    | none =>
      have hword : word ∉ wordList := List.idxOf?_eq_none_iff.mp h
      simp [hword]
    | some i =>
      obtain ⟨hword, rfl⟩ := indexOf?_eq_some_iff.mp h
      constructor
      · intro hmap
        cases hrest : indices (position + 1) words with
        | error e =>
          rw [hrest] at hmap
          cases hmap
        | ok js =>
          rw [hrest] at hmap
          obtain ⟨hwords, rfl⟩ := ih.mp hrest
          exact ⟨List.forall_mem_cons.mpr ⟨hword, hwords⟩, (Except.ok.inj hmap).symm⟩
      · rintro ⟨hlisted, rfl⟩
        have hrest := (@ih (position + 1) _).mpr ⟨(List.forall_mem_cons.mp hlisted).2, rfl⟩
        rw [hrest]
        rfl

theorem leadingHashBits_lt {k : ℕ} (hk : k ≤ 256) (bs : List UInt8) :
    leadingHashBits bs k < 2 ^ k := by
  have hlt : (sha256 bs).toNat < 2 ^ k * 2 ^ (256 - k) := by
    rw [← pow_add, Nat.add_sub_cancel' hk]
    exact (sha256 bs).toNat_lt
  rw [leadingHashBits, Nat.shiftRight_eq_div_pow]
  exact Nat.div_lt_of_lt_mul (Nat.mul_comm _ _ ▸ hlt)

theorem take_bitsOf_sha256 {k : ℕ} (hk : k ≤ 256) (bs : List UInt8) :
    (bitsOf (sha256 bs).toList).take k = Numeral.fixed 2 k (leadingHashBits bs k) := by
  have hcut : 8 * 32 = k + (256 - k) := by omega
  rw [bitsOf, Bech32.flatMap_toNat, hcut, Numeral.fixed_add, leadingHashBits,
    Nat.shiftRight_eq_div_pow]
  exact List.take_left' (Numeral.length_fixed _ _ _)

theorem checksumLength_eq {is : List ℕ} {k : ℕ} (hlength : is.length = 3 * k) :
    checksumLength is.length = k := by
  rw [checksumLength]
  omega

theorem flatMap_fixed_indices {is : List ℕ} {k : ℕ} (hlt : ∀ i ∈ is, i < 2048)
    (hlength : is.length = 3 * k) : is.flatMap (Numeral.fixed 2 11) =
      bitsOf (entropy is).toList ++ Numeral.fixed 2 k (bits is) := by
  have hdigits : Numeral.fixed (2 ^ 11) is.length (bits is) = is := Numeral.fixed_value hlt
  have hcut : 11 * is.length = 8 * (4 * (is.length / 3)) + k := by omega
  conv_lhs => rw [← hdigits]
  rw [Numeral.flatMap_fixed, hcut, Numeral.fixed_add, entropy, bitsOf_ofNat,
    checksumLength_eq hlength, Nat.shiftRight_eq_div_pow]

/-- The checksum of words holds exactly if there is a secret that has all their bits but the last
ones, and these are the first ones of its hash. -/
theorem checksumHolds_iff {is : List ℕ} {k : ℕ} (hlt : ∀ i ∈ is, i < 2048)
    (hlength : is.length = 3 * k) (hk : k ≤ 8) :
    checksumHolds is = true ↔ ∃ secret,
      is.flatMap (Numeral.fixed 2 11) = bitsOf secret ++ (bitsOf (sha256 secret).toList).take k := by
  have hk' : k ≤ 256 := hk.trans (by decide)
  have hchecksum : checksumHolds is = true ↔
      Numeral.fixed 2 k (bits is) =
        Numeral.fixed 2 k (leadingHashBits (entropy is).toList k) := by
    rw [Numeral.fixed_eq_fixed_iff, Nat.mod_eq_of_lt (leadingHashBits_lt hk' _)]
    simp only [checksumHolds, checksumLength_eq hlength, Nat.one_shiftLeft, beq_iff_eq]
  rw [hchecksum, flatMap_fixed_indices hlt hlength]
  constructor
  · intro h
    exact ⟨(entropy is).toList, by rw [take_bitsOf_sha256 hk', h]⟩
  · rintro ⟨secret, h⟩
    rw [take_bitsOf_sha256 hk'] at h
    obtain ⟨hsecret, hcheck⟩ := List.append_inj' h
      ((Numeral.length_fixed _ _ _).trans (Numeral.length_fixed _ _ _).symm)
    rw [hcheck, bitsOf_injective hsecret]

theorem checksumHolds_words_iff {words : List String} (hcount : words.length ∈ wordCounts)
    (hlisted : ∀ word ∈ words, word ∈ wordList) :
    checksumHolds (words.map wordList.idxOf) = true ↔ ∃ secret, wordBits words =
      bitsOf secret ++ (bitsOf (sha256 secret).toList).take (words.length / 3) := by
  have hlt : ∀ i ∈ words.map wordList.idxOf, i < 2048 := by
    intro i hi
    obtain ⟨word, hword, rfl⟩ := List.mem_map.mp hi
    rw [← length_wordList]
    exact List.idxOf_lt_length_of_mem (hlisted word hword)
  have hthree : words.length = 3 * (words.length / 3) ∧ words.length / 3 ≤ 8 := by
    simp only [wordCounts, List.mem_cons, List.not_mem_nil, or_false] at hcount
    omega
  have hlength : (words.map wordList.idxOf).length = 3 * (words.length / 3) := by
    rw [List.length_map]
    exact hthree.1
  rw [checksumHolds_iff hlt hlength hthree.2, List.flatMap_map]
  rfl

theorem exists_carries_iff {words : List String} : (∃ secret, Carries words secret) ↔
    words.length ∈ wordCounts ∧ (∀ word ∈ words, word ∈ wordList) ∧
      checksumHolds (words.map wordList.idxOf) = true := by
  constructor
  · rintro ⟨secret, hcount, hlisted, hbits⟩
    exact ⟨hcount, hlisted, (checksumHolds_words_iff hcount hlisted).mpr ⟨secret, hbits⟩⟩
  · rintro ⟨hcount, hlisted, hchecksum⟩
    obtain ⟨secret, hbits⟩ := (checksumHolds_words_iff hcount hlisted).mp hchecksum
    exact ⟨secret, hcount, hlisted, hbits⟩

/-- A text is a mnemonic exactly if its words carry a secret. -/
theorem parse_eq_ok_iff {phrase : String} {m : Mnemonic} :
    parse phrase = .ok m ↔ (∃ secret, Carries (wordsOf phrase) secret) ∧ m = ⟨wordsOf phrase⟩ := by
  rw [exists_carries_iff, parse]
  by_cases hcount : (wordsOf phrase).length ∈ wordCounts
  · by_cases hlisted : ∀ word ∈ wordsOf phrase, word ∈ wordList
    · have hindices := (@indices_eq_ok_iff 0 (wordsOf phrase) _).mpr ⟨hlisted, rfl⟩
      by_cases hchecksum : checksumHolds ((wordsOf phrase).map wordList.idxOf) = true
      · simp only [hindices, hchecksum, if_neg (not_not_intro hcount), if_true]
        constructor
        · intro h
          exact ⟨⟨hcount, hlisted, trivial⟩, (Except.ok.inj h).symm⟩
        · rintro ⟨-, rfl⟩
          rfl
      · simp [hcount, hindices, hchecksum]
    · cases hindices : indices 0 (wordsOf phrase) with
      | ok is => exact absurd (indices_eq_ok_iff.mp hindices).1 hlisted
      | error e => simp [hcount, hlisted]
  · simp [hcount]

theorem parse_congr {phrase phrase' : String} (h : wordsOf phrase' = wordsOf phrase) :
    parse phrase' = parse phrase := by
  rw [parse, parse, h]

/-! ## Blanks -/

theorem wordsOf_congr {phrase phrase' : String}
    (h : Text.words phrase.toList = Text.words phrase'.toList) :
    wordsOf phrase = wordsOf phrase' := by
  rw [wordsOf, wordsOf, Text.words_nfkd_congr h]

theorem wordsOf_trim (phrase : String) :
    wordsOf (String.ofList (Text.trim phrase.toList)) = wordsOf phrase := by
  apply wordsOf_congr
  rw [String.toList_ofList, Text.words_trim]

end Mnemonic

end WalletRecovery
