import WalletRecovery.Encoding.Bech32
import WalletRecovery.Proofs.Numeral
import WalletRecovery.Proofs.Text.Blank
import Mathlib.Data.List.DropRight

/-! # Bech32 read back

A text is read by its last separator, its alphabet and its checksum, and a witness program by the
bits of its groups. The checksum fits because a group shifted into the state is added to it, so the
six groups that are written cancel the state that zeros would leave. -/

namespace WalletRecovery.Bech32

/-! ## The checksum -/

theorem feedback_lt (top : ℕ) : feedback top < 2 ^ 30 := by
  have hfold : ∀ (l : List (ℕ × ℕ)) (acc : ℕ), acc < 2 ^ 30 → (∀ ig ∈ l, ig.2 < 2 ^ 30) →
      l.foldl (fun acc ig => if top.testBit ig.1 then acc ^^^ ig.2 else acc) acc < 2 ^ 30 := by
    intro l
    induction l with
    | nil =>
      intro acc hacc _
      exact hacc
    | cons ig l ih =>
      intro acc hacc hl
      obtain ⟨hig, hrest⟩ := List.forall_mem_cons.mp hl
      apply ih _ _ hrest
      change (if top.testBit ig.1 then acc ^^^ ig.2 else acc) < 2 ^ 30
      split
      · exact Nat.xor_lt_two_pow hacc hig
      · exact hacc
  exact hfold _ 0 (by decide) (by decide)

theorem step_lt {g : ℕ} (hg : g < 32) (s : ℕ) : step s g < 2 ^ 30 := by
  have hlow : s % 2 ^ 25 < 2 ^ 25 := Nat.mod_lt _ (by decide)
  have hshift : (s % 2 ^ 25) <<< 5 < 2 ^ 30 := by
    rw [Nat.shiftLeft_eq]
    omega
  exact Nat.xor_lt_two_pow (Nat.xor_lt_two_pow hshift (by omega)) (feedback_lt _)

theorem shiftLeft_xor_of_lt {v g : ℕ} (hg : g < 32) : v <<< 5 ^^^ g = v * 32 + g := by
  have hg' : g < 2 ^ 5 := hg
  apply Nat.eq_of_testBit_eq
  intro i
  rw [Nat.testBit_xor, Nat.testBit_shiftLeft, Nat.mul_comm v, Nat.testBit_two_pow_mul_add v hg']
  by_cases hi : i < 5
  · rw [if_pos hi, decide_eq_false (by omega), Bool.false_and, Bool.false_xor]
  · have hbit : g.testBit i = false :=
      Nat.testBit_lt_two_pow (hg'.trans_le (Nat.pow_le_pow_right (by decide) (by omega)))
    rw [if_neg hi, hbit, decide_eq_true (by omega), Bool.true_and, Bool.xor_false]

/-- What was added to a state and is not shifted out of it moves up by one group. -/
theorem step_xor {v g : ℕ} (hv : v < 2 ^ 25) (hg : g < 32) (s : ℕ) :
    step (s ^^^ v) g = step s 0 ^^^ (v * 32 + g) := by
  have hlow : (s ^^^ v) % 2 ^ 25 = s % 2 ^ 25 ^^^ v := by
    rw [Nat.xor_mod_two_pow, Nat.mod_eq_of_lt hv]
  have hhigh : (s ^^^ v) >>> 25 = s >>> 25 := by
    rw [Nat.shiftRight_xor_distrib, Nat.shiftRight_eq_zero v 25 hv, Nat.xor_zero]
  change ((s ^^^ v) % 2 ^ 25) <<< 5 ^^^ g ^^^ feedback ((s ^^^ v) >>> 25) =
    (s % 2 ^ 25) <<< 5 ^^^ 0 ^^^ feedback (s >>> 25) ^^^ (v * 32 + g)
  rw [hlow, hhigh, Nat.shiftLeft_xor_distrib, Nat.xor_zero, ← shiftLeft_xor_of_lt hg]
  ac_rfl

theorem foldl_step {gs : List ℕ} (hlt : ∀ g ∈ gs, g < 32) (hlen : gs.length ≤ 6) (s : ℕ) :
    gs.foldl step s = (List.replicate gs.length 0).foldl step s ^^^ Numeral.value 32 gs := by
  induction gs using List.reverseRecOn with
  | nil => exact (Nat.xor_zero s).symm
  | append_singleton gs g ih =>
    have hg : g < 32 := hlt g (by simp)
    have hgs : ∀ d ∈ gs, d < 32 := fun d hd => hlt d (by simp [hd])
    rw [List.length_append, List.length_singleton] at hlen ⊢
    -- at most five groups so far, so nothing of them is shifted out by the next one
    have hvalue : Numeral.value 32 gs < 2 ^ 25 := by
      have hpow : 32 ^ gs.length ≤ 32 ^ 5 := Nat.pow_le_pow_right (by decide) (by omega)
      exact (Numeral.value_lt (by decide) hgs).trans_le hpow
    rw [List.foldl_append, ih hgs (by omega), List.replicate_succ', List.foldl_append,
      Numeral.value_concat]
    exact step_xor hvalue hg _

theorem checksum_lt (hrp : List Char) (data : List ℕ) : ∀ g ∈ checksum hrp data, g < 32 :=
  fun _ hg => Numeral.fixed_lt (by decide) hg

theorem length_checksum (hrp : List Char) (data : List ℕ) : (checksum hrp data).length = 6 :=
  Numeral.length_fixed _ _ _

/-- Behind its checksum, every text leaves the state one. -/
theorem polymod_checksum (hrp : List Char) (data : List ℕ) :
    polymod (expandPrefix hrp ++ (data ++ checksum hrp data)) = 1 := by
  -- the checksum is this state with one added, and adding it to this state leaves the one
  let zeros := polymod (expandPrefix hrp ++ data ++ List.replicate 6 0)
  have hzeros : zeros < 2 ^ 30 := by
    have hlast : zeros = step (polymod (expandPrefix hrp ++ data ++ List.replicate 5 0)) 0 := by
      change polymod _ = _
      rw [List.replicate_succ', ← List.append_assoc, polymod, List.foldl_append]
      rfl
    rw [hlast]
    exact step_lt (by decide) _
  have hvalue : Numeral.value 32 (checksum hrp data) = zeros ^^^ 1 := by
    have hlt : zeros ^^^ 1 < 2 ^ 30 := Nat.xor_lt_two_pow hzeros (by decide)
    rw [checksum, Numeral.value_fixed]
    exact Nat.mod_eq_of_lt hlt
  have hstate : polymod (expandPrefix hrp ++ data ++ checksum hrp data) =
      zeros ^^^ Numeral.value 32 (checksum hrp data) := by
    rw [polymod, List.foldl_append,
      foldl_step (checksum_lt hrp data) (length_checksum hrp data).le, length_checksum,
      ← List.foldl_append]
    rfl
  rw [← List.append_assoc, hstate, hvalue, ← Nat.xor_assoc, Nat.xor_self, Nat.zero_xor]

/-! ## Texts -/

/-- Whether a prefix can be written: one or more graphic characters, none of them upper case. -/
def PrefixText (hrp : List Char) : Prop :=
  hrp ≠ [] ∧ Text.Graphic hrp ∧ hrp.all (! ·.isUpper)

instance (hrp : List Char) : Decidable (PrefixText hrp) :=
  inferInstanceAs (Decidable (_ ∧ _ ∧ _))

/-- Reads a lower-case text: the prefix in front of its last separator, and the groups behind it
without those of the checksum, which must fit. -/
def decode? (cs : List Char) : Option (List Char × List ℕ) :=
  let hrp := (cs.rdropWhile (· ≠ '1')).dropLast
  match (cs.rtakeWhile (· ≠ '1')).mapM alphabet.idxOf? with
  | none => none
  | some groups =>
    if cs.length ≤ 90 ∧ PrefixText hrp ∧ 6 ≤ groups.length ∧
        polymod (expandPrefix hrp ++ groups) = 1 then
      some (hrp, groups.take (groups.length - 6))
    else none

theorem getD_mem (d : ℕ) : alphabet.getD d 'q' ∈ alphabet := by
  rcases Nat.lt_or_ge d alphabet.length with h | h
  · rw [List.getD_eq_getElem _ _ h]
    exact List.getElem_mem h
  · rw [List.getD_eq_default _ _ h]
    decide

theorem graphic_alphabet : Text.Graphic alphabet := by decide

theorem graphic_encode {hrp : List Char} (hhrp : Text.Graphic hrp) (data : List ℕ) :
    Text.Graphic (encode hrp data) := by
  have hone : Text.Graphic ['1'] := by decide
  refine hhrp.append (hone.append ?_)
  intro c hc
  obtain ⟨d, -, rfl⟩ := List.mem_map.mp hc
  exact graphic_alphabet _ (getD_mem d)

theorem parted_at_separator (hrp : List Char) {cs : List Char} (hcs : ∀ c ∈ cs, c ≠ '1') :
    (hrp ++ '1' :: cs).rdropWhile (· ≠ '1') = hrp ++ ['1'] ∧
      (hrp ++ '1' :: cs).rtakeWhile (· ≠ '1') = cs := by
  have hall : ∀ c ∈ cs.reverse, decide (c ≠ '1') = true := by
    intro c hc
    exact decide_eq_true (hcs c (List.mem_reverse.mp hc))
  have hreverse : (hrp ++ '1' :: cs).reverse = cs.reverse ++ '1' :: hrp.reverse := by
    simp
  rw [List.rdropWhile, List.rtakeWhile, hreverse, List.dropWhile_append_of_pos hall,
    List.takeWhile_append_of_pos hall]
  simp

theorem mapM_idxOf? {gs : List ℕ} (hlt : ∀ g ∈ gs, g < 32) :
    (gs.map fun d => alphabet.getD d 'q').mapM alphabet.idxOf? = some gs := by
  induction gs with
  | nil => rfl
  | cons g gs ih =>
    obtain ⟨hg, hgs⟩ := List.forall_mem_cons.mp hlt
    rw [← length_alphabet] at hg
    rw [List.map_cons, List.mapM_cons, Numeral.idxOf?_getD nodup_alphabet hg, ih hgs]
    rfl

theorem length_encode (hrp : List Char) (data : List ℕ) :
    (encode hrp data).length = hrp.length + data.length + 7 := by
  simp only [encode, List.length_append, List.length_cons, List.length_map, length_checksum]
  omega

theorem decode?_encode {hrp : List Char} {data : List ℕ} (hhrp : PrefixText hrp)
    (hlt : ∀ g ∈ data, g < 32) (hlen : hrp.length + data.length + 7 ≤ 90) :
    decode? (encode hrp data) = some (hrp, data) := by
  have hgroups : ∀ g ∈ data ++ checksum hrp data, g < 32 := by
    intro g hg
    rcases List.mem_append.mp hg with hg | hg
    · exact hlt g hg
    · exact checksum_lt hrp data g hg
  have hchars : ∀ c ∈ (data ++ checksum hrp data).map fun d => alphabet.getD d 'q', c ≠ '1' := by
    intro c hc
    obtain ⟨d, -, rfl⟩ := List.mem_map.mp hc
    exact ne_of_mem_of_not_mem (getD_mem d) (by decide)
  obtain ⟨hfront, hback⟩ := parted_at_separator hrp hchars
  have hcount : (data ++ checksum hrp data).length = data.length + 6 := by
    rw [List.length_append, length_checksum]
  have hvalid : (encode hrp data).length ≤ 90 ∧ PrefixText hrp ∧
      6 ≤ (data ++ checksum hrp data).length ∧
      polymod (expandPrefix hrp ++ (data ++ checksum hrp data)) = 1 := by
    refine ⟨?_, hhrp, ?_, polymod_checksum hrp data⟩
    · rw [length_encode]
      exact hlen
    · omega
  rw [encode] at hvalid ⊢
  simp only [decode?, hfront, hback, mapM_idxOf? hgroups, List.dropLast_concat]
  rw [if_pos hvalid, hcount, Nat.add_sub_cancel, List.take_left']
  rfl

/-! ## Witness programs -/

def octets : List ℕ → List UInt8 × List ℕ
  | a :: b :: c :: d :: e :: f :: g :: h :: rest =>
    let (bytes, left) := octets rest
    (UInt8.ofNat (Numeral.value 2 [a, b, c, d, e, f, g, h]) :: bytes, left)
  | left => ([], left)

/-- Regroups five bits to eight. What is left must be less than a group, and zero. -/
def regroup? (groups : List ℕ) : Option (List UInt8) :=
  let (bytes, left) := octets (groups.flatMap (Numeral.fixed 2 5))
  if left.length < 5 ∧ left.all (· = 0) then some bytes else none

def decodeWitness? (cs : List Char) : Option (List Char × ℕ × List UInt8) :=
  match decode? cs with
  | some (hrp, version :: groups) => (regroup? groups).map fun program => (hrp, version, program)
  | _ => none

theorem octets_of_length_lt {left : List ℕ} (h : left.length < 8) : octets left = ([], left) := by
  unfold octets
  split
  · simp only [List.length_cons] at h
    omega
  · rfl

theorem octets_flatMap (bs : List UInt8) {left : List ℕ} (h : left.length < 8) :
    octets ((bs.flatMap fun x => Numeral.fixed 2 8 x.toNat) ++ left) = (bs, left) := by
  induction bs with
  | nil => exact octets_of_length_lt h
  | cons x bs ih =>
    have hx : UInt8.ofNat (Numeral.value 2 (Numeral.fixed 2 8 x.toNat)) = x := by
      have hlt : x.toNat < 2 ^ 8 := x.toNat_lt
      rw [Numeral.value_fixed, Nat.mod_eq_of_lt hlt, UInt8.ofNat_toNat]
    rw [List.flatMap_cons, List.append_assoc]
    generalize (bs.flatMap fun x => Numeral.fixed 2 8 x.toNat) ++ left = rest at ih
    change (UInt8.ofNat (Numeral.value 2 (Numeral.fixed 2 8 x.toNat)) :: (octets rest).1,
      (octets rest).2) = _
    rw [ih, hx]

theorem flatMap_toNat {n : ℕ} (bs : Bytes n) :
    (bs.toList.flatMap fun x => Numeral.fixed 2 8 x.toNat) = Numeral.fixed 2 (8 * n) bs.toNat := by
  have hlt : ∀ d ∈ bs.toList.map UInt8.toNat, d < 2 ^ 8 := Bytes.lt_of_mem_map_toNat
  have hdigits : Numeral.fixed (2 ^ 8) n bs.toNat = bs.toList.map UInt8.toNat := by
    have hfixed := Numeral.fixed_value hlt
    rwa [List.length_map, bs.length_eq] at hfixed
  rw [← Numeral.flatMap_fixed, hdigits, List.flatMap_map]

/-- The groups of a byte string have its bits, and at most four zeros behind them. -/
theorem flatMap_groupsOf {n : ℕ} (bs : Bytes n) :
    ∃ padding < 5, (groupsOf bs).flatMap (Numeral.fixed 2 5) =
      (bs.toList.flatMap fun x => Numeral.fixed 2 8 x.toNat) ++ List.replicate padding 0 := by
  let count := (8 * n + 4) / 5
  let padding := 5 * count - 8 * n
  have hcount : 5 * count = 8 * n + padding := by omega
  refine ⟨padding, by omega, ?_⟩
  have hgroups : groupsOf bs = Numeral.fixed (2 ^ 5) count (bs.toNat <<< padding) := rfl
  have hfront : bs.toNat <<< padding / 2 ^ padding = bs.toNat := by
    rw [Nat.shiftLeft_eq, Nat.mul_div_cancel _ (Nat.two_pow_pos padding)]
  have hback : bs.toNat <<< padding % 2 ^ padding = 0 := by
    rw [Nat.shiftLeft_eq, Nat.mul_mod_left]
  rw [hgroups, Numeral.flatMap_fixed, hcount, Numeral.fixed_add, hfront, flatMap_toNat,
    ← Numeral.fixed_mod 2 padding, hback, Numeral.fixed_zero]

theorem regroup?_groupsOf {n : ℕ} (bs : Bytes n) : regroup? (groupsOf bs) = some bs.toList := by
  obtain ⟨padding, hpadding, hbits⟩ := flatMap_groupsOf bs
  have hleft : (List.replicate padding 0).length < 8 := by
    rw [List.length_replicate]
    omega
  have hzero : (List.replicate padding 0).length < 5 ∧ (List.replicate padding 0).all (· = 0) := by
    refine ⟨by rwa [List.length_replicate], List.all_eq_true.mpr ?_⟩
    intro bit hbit
    exact decide_eq_true (List.eq_of_mem_replicate hbit)
  simp only [regroup?, hbits, octets_flatMap bs.toList hleft]
  rw [if_pos hzero]

theorem length_groupsOf {n : ℕ} (bs : Bytes n) : (groupsOf bs).length = (8 * n + 4) / 5 :=
  Numeral.length_fixed _ _ _

/-- A witness program is read back from its address, if that is not too long. -/
theorem decodeWitness?_witnessAddress {n version : ℕ} {hrp : String} (bs : Bytes n)
    (hhrp : PrefixText hrp.toList) (hversion : version < 32)
    (hlen : hrp.toList.length + (8 * n + 4) / 5 + 8 ≤ 90) :
    decodeWitness? (witnessAddress hrp version bs).toList =
      some (hrp.toList, version, bs.toList) := by
  have hdata : ∀ g ∈ version :: groupsOf bs, g < 32 := by
    refine List.forall_mem_cons.mpr ⟨hversion, ?_⟩
    intro g hg
    exact Numeral.fixed_lt (by decide) hg
  have hlength : hrp.toList.length + (version :: groupsOf bs).length + 7 ≤ 90 := by
    rw [List.length_cons, length_groupsOf]
    omega
  rw [witnessAddress, String.toList_ofList, decodeWitness?, decode?_encode hhrp hdata hlength]
  simp only [regroup?_groupsOf, Option.map_some]

example : decodeWitness? "bc1qcr8te4kr609gcawutmrza0j4xv80jy8z306fyu".toList =
    some (['b', 'c'], 0, [0xc0, 0xce, 0xbc, 0xd6, 0xc3, 0xd3, 0xca, 0x8c, 0x75, 0xdc, 0x5e, 0xc6,
      0x2e, 0xbe, 0x55, 0x33, 0x0e, 0xf9, 0x10, 0xe2]) := by
  decide +kernel

end WalletRecovery.Bech32
