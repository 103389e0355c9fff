import WalletRecovery.Encoding.Base58
import WalletRecovery.Proofs.Numeral
import WalletRecovery.Proofs.Text.Blank

/-! # Base 58 read back

Writing bytes changes their base from 256 to 58 and keeps the leading zeros, so reading undoes it
and no other text is read as the same bytes. With the checksum it is the same, because a checksum
has four bytes. -/

namespace WalletRecovery.Base58

theorem digitChar_eq_getElem {d : ℕ} (hd : d < alphabet.length) : digitChar d = alphabet[d] :=
  List.getD_eq_getElem _ _ hd

theorem idxOf?_digitChar {d : ℕ} (hd : d < 58) : alphabet.idxOf? (digitChar d) = some d := by
  rw [← length_alphabet] at hd
  exact Numeral.idxOf?_getD nodup_alphabet hd '1'

theorem eq_digitChar_of_idxOf? {c : Char} {d : ℕ} (h : alphabet.idxOf? c = some d) :
    d < 58 ∧ digitChar d = c := by
  obtain ⟨hlt, hc, -⟩ := List.idxOf?_eq_some_iff.mp h
  rw [digitChar_eq_getElem hlt]
  exact ⟨hlt, hc⟩

theorem digitChar_eq_one_iff {d : ℕ} (hd : d < 58) : digitChar d = '1' ↔ d = 0 := by
  constructor
  · intro h
    have hidx := idxOf?_digitChar hd
    rw [h] at hidx
    exact (Option.some.inj hidx).symm
  · rintro rfl
    rfl

theorem digitsOf_eq_ok_iff {cs : List Char} {ds : List ℕ} :
    digitsOf cs = .ok ds ↔ cs = ds.map digitChar ∧ ∀ d ∈ ds, d < 58 := by
  constructor
  · intro h
    induction cs generalizing ds with
    | nil =>
      obtain rfl := Except.ok.inj h
      simp
    | cons c cs ih =>
      rw [digitsOf] at h
      cases hc : alphabet.idxOf? c with
      | none => rw [hc] at h; cases h
      | some d =>
        rw [hc] at h
        obtain ⟨hd, rfl⟩ := eq_digitChar_of_idxOf? hc
        cases hr : digitsOf cs with
        | error e => rw [hr] at h; cases h
        | ok rest =>
          rw [hr] at h
          obtain rfl := Except.ok.inj h
          obtain ⟨rfl, hrest⟩ := ih hr
          exact ⟨rfl, List.forall_mem_cons.mpr ⟨hd, hrest⟩⟩
  · rintro ⟨rfl, hlt⟩
    induction ds with
    | nil => rfl
    | cons d ds ih =>
      obtain ⟨hd, hds⟩ := List.forall_mem_cons.mp hlt
      rw [List.map_cons, digitsOf, idxOf?_digitChar hd, ih hds]
      rfl

/-- The ones in front of a text are the zeros in front of its digits. -/
theorem length_takeWhile_one {ds : List ℕ} (hlt : ∀ d ∈ ds, d < 58) :
    ((ds.map digitChar).takeWhile (· = '1')).length = (ds.takeWhile (· = 0)).length := by
  induction ds with
  | nil => rfl
  | cons d ds ih =>
    obtain ⟨hd, hds⟩ := List.forall_mem_cons.mp hlt
    by_cases h0 : d = 0
    · simp [h0, (digitChar_eq_one_iff (by decide : 0 < 58)).mpr, ih hds]
    · simp [h0, digitChar_eq_one_iff hd]

theorem length_takeWhile_zero (bs : List UInt8) :
    (bs.takeWhile (· = 0)).length = ((bs.map UInt8.toNat).takeWhile (· = 0)).length := by
  rw [List.takeWhile_map, List.length_map]
  congr 2
  funext x
  rw [Function.comp_apply, decide_eq_decide, ← UInt8.toNat_inj]
  rfl

theorem encode_eq (bs : List UInt8) :
    encode bs = (Numeral.rebase 256 58 (bs.map UInt8.toNat)).map digitChar := by
  rw [encode, Numeral.rebase, List.map_append, List.map_replicate, length_takeWhile_zero]
  rfl

theorem decode_map_digitChar {ds : List ℕ} (hlt : ∀ d ∈ ds, d < 58) :
    decode (ds.map digitChar) = .ok ((Numeral.rebase 58 256 ds).map UInt8.ofNat) := by
  rw [decode, digitsOf_eq_ok_iff.mpr ⟨rfl, hlt⟩, length_takeWhile_one hlt, Numeral.rebase,
    List.map_append, List.map_replicate]
  rfl

/-- A text is read as given bytes exactly if they are written so. -/
theorem decode_eq_ok_iff {cs : List Char} {bs : List UInt8} :
    decode cs = .ok bs ↔ cs = encode bs := by
  constructor
  · intro h
    cases hd : digitsOf cs with
    | error c => rw [decode, hd] at h; cases h
    | ok ds =>
      obtain ⟨rfl, hlt⟩ := digitsOf_eq_ok_iff.mp hd
      rw [decode_map_digitChar hlt] at h
      obtain rfl := Except.ok.inj h
      rw [encode_eq, Bytes.map_toNat_ofNat (fun d => Numeral.rebase_lt (by decide)),
        Numeral.rebase_rebase (by decide) (by decide) hlt]
  · rintro rfl
    rw [encode_eq, decode_map_digitChar (fun d => Numeral.rebase_lt (by decide)),
      Numeral.rebase_rebase (by decide) (by decide) Bytes.lt_of_mem_map_toNat,
      Bytes.map_ofNat_toNat]

theorem length_checksum (payload : List UInt8) : (checksum payload).length = 4 := by
  rw [checksum, List.length_take, Bytes.length_eq]
  rfl

/-- A text is read as a given payload exactly if the payload is written so. -/
theorem decodeChecked_eq_ok_iff {cs : List Char} {payload : List UInt8} :
    decodeChecked cs = .ok payload ↔ cs = encodeChecked payload := by
  constructor
  · intro h
    cases hd : decode cs with
    | error c => rw [decodeChecked, hd] at h; cases h
    | ok bs =>
      simp only [decodeChecked, hd] at h
      split at h
      · cases h
      split at h
      · next hsum =>
        obtain rfl := Except.ok.inj h
        rw [encodeChecked, ← hsum, List.take_append_drop]
        exact decode_eq_ok_iff.mp hd
      · cases h
  · rintro rfl
    have hd : decode (encodeChecked payload) = .ok (payload ++ checksum payload) :=
      decode_eq_ok_iff.mpr rfl
    have hlen : (payload ++ checksum payload).length = payload.length + 4 := by
      rw [List.length_append, length_checksum]
    have hcut : payload.length + 4 - 4 = payload.length := by omega
    simp only [decodeChecked, hd, hlen, hcut, List.take_left', List.drop_left']
    rw [if_neg (by omega), if_pos trivial]

theorem graphic_alphabet : Text.Graphic alphabet := by decide

theorem graphic_encode (bs : List UInt8) : Text.Graphic (encode bs) := by
  intro c hc
  rw [encode_eq] at hc
  obtain ⟨d, hd, rfl⟩ := List.mem_map.mp hc
  have hlt : d < alphabet.length := Numeral.rebase_lt (by decide) hd
  rw [digitChar_eq_getElem hlt]
  exact graphic_alphabet _ (List.getElem_mem hlt)

theorem graphic_encodeChecked (payload : List UInt8) : Text.Graphic (encodeChecked payload) :=
  graphic_encode _

end WalletRecovery.Base58
