import WalletRecovery.Proofs.Encoding.Bech32
import WalletRecovery.Proofs.Key.Codec
import WalletRecovery.Key.Representation

/-! # The texts of a key read back

Every text under which a wallet knows a key can be read, and gives the hash of the public key or the
secret that it was made from. Without its secret, a key has the same texts but the private one. -/

namespace WalletRecovery

open Curve

theorem decodeChecked_versionedText (version : UInt8) (payload : List UInt8) :
    Base58.decodeChecked (versionedText version payload).toList = .ok (version :: payload) := by
  rw [versionedText, String.toList_ofList]
  exact Base58.decodeChecked_eq_ok_iff.mpr rfl

theorem Network.prefixText_addressPrefix (n : Network) :
    Bech32.PrefixText n.addressPrefix.toList := by
  cases n <;> decide

theorem Network.length_addressPrefix_le (n : Network) : n.addressPrefix.toList.length ≤ 4 := by
  cases n <;> decide

theorem decodeWitness?_hash (n : Network) (hash : Bytes 20) :
    Bech32.decodeWitness? (Bech32.witnessAddress n.addressPrefix 0 hash).toList =
      some (n.addressPrefix.toList, 0, hash.toList) := by
  have hlen := n.length_addressPrefix_le
  exact Bech32.decodeWitness?_witnessAddress hash n.prefixText_addressPrefix (by decide) (by omega)

namespace ExtendedKey

/-- What the texts of a key on a network give when they are read. -/
structure ReadsBack (k : ExtendedKey) (n : Network) (r : Representation) : Prop where
  publicKey : r.publicKey = k.publicPoint.compress
  publicKeyHash : r.publicKeyHash = hash160 r.publicKey.toList
  p2pkh : Base58.decodeChecked r.p2pkh.toList =
    .ok ((if n.kind = .main then 0x00 else 0x6f) :: r.publicKeyHash.toList)
  p2shP2wpkh : Base58.decodeChecked r.p2shP2wpkh.toList =
    .ok ((if n.kind = .main then 0x05 else 0xc4) ::
      (hash160 (0x00 :: 0x14 :: r.publicKeyHash.toList)).toList)
  p2wpkh : Bech32.decodeWitness? r.p2wpkh.toList =
    some ((if n = .bitcoin then "bc" else if n = .regtest then "bcrt" else "tb").toList, 0,
      r.publicKeyHash.toList)
  wif_eq_none_iff : r.wif = none ↔ k.isPrivate = false
  wif : ∀ text, r.wif = some text → ∃ (secret : Bytes 32) (key : SecretKey),
    Base58.decodeChecked text.toList =
      .ok ((if n.kind = .main then 0x80 else 0xef) :: (secret.toList ++ [0x01])) ∧
    SecretKey.ofBytes? secret = some key ∧ k.material = .secret key ∧
    key.publicPoint.compress = r.publicKey

theorem readsBack_represent (k : ExtendedKey) (n : Network) : k.ReadsBack n (k.represent n) where
  publicKey := rfl
  publicKeyHash := rfl
  p2pkh := by
    have h := decodeChecked_versionedText n.kind.keyHashVersion (hash160 k.publicKey.toList).toList
    cases n <;> exact h
  p2shP2wpkh := by
    have h := decodeChecked_versionedText n.kind.scriptHashVersion
      (hash160 (witnessScript (hash160 k.publicKey.toList))).toList
    cases n <;> exact h
  p2wpkh := by
    have h := decodeWitness?_hash n (hash160 k.publicKey.toList)
    cases n <;> exact h
  wif_eq_none_iff := by
    rw [isPrivate, Option.isSome_eq_false_iff, Option.isNone_iff_eq_none]
    exact Option.map_eq_none_iff
  wif := by
    intro text htext
    obtain ⟨key, hkey, rfl⟩ := Option.map_eq_some_iff.mp htext
    have hmaterial : k.material = .secret key := by
      cases hm : k.material with
      | secret key' =>
        rw [secret?, hm] at hkey
        rw [Option.some.inj hkey]
      | point p =>
        rw [secret?, hm] at hkey
        cases hkey
    have hpublic : key.publicPoint.compress = k.publicKey := by
      rw [ExtendedKey.publicKey, publicPoint, hmaterial]
      rfl
    have h := decodeChecked_versionedText n.kind.wifVersion (key.toBytes.toList ++ [1])
    refine ⟨key.toBytes, key, ?_, SecretKey.ofBytes?_eq_some_iff.mpr rfl, hmaterial, hpublic⟩
    cases n <;> exact h

theorem represent_neuter (k : ExtendedKey) (n : Network) :
    k.neuter.represent n = { k.represent n with wif := none } := rfl

/-- Every key has texts on every network, they are read back, and the ones of the key without its
secret differ in the private key only. -/
theorem represent?_readsBack (k : ExtendedKey) (n : Network) :
    ∃ r, k.represent? n = .ok r ∧ k.ReadsBack n r ∧
      k.neuter.represent? n = .ok { r with wif := none } := by
  refine ⟨k.represent n, k.represent?_eq n, k.readsBack_represent n, ?_⟩
  rw [represent?_eq, represent_neuter]

end ExtendedKey

end WalletRecovery
