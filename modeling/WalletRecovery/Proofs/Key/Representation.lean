import WalletRecovery.Key.Representation
import WalletRecovery.Proofs.Encoding.Base58
import WalletRecovery.Proofs.Encoding.Bech32

/-! # The texts of a key

Exported keys, hexadecimal texts and addresses of every kind are made of graphic characters, so none
of them can end a field or a line. -/

namespace WalletRecovery

theorem graphic_hexText (bs : List UInt8) : Text.Graphic (hexText bs) := by
  have hchar : ∀ d < 16, 33 ≤ (Numeral.hexChar d).toNat ∧ (Numeral.hexChar d).toNat ≤ 126 := by
    decide
  intro c hc
  obtain ⟨x, -, hx⟩ := List.mem_flatMap.mp hc
  have hlt := x.toNat_lt
  rcases List.mem_cons.mp hx with rfl | hx
  · exact hchar _ (by omega)
  · obtain rfl := List.mem_singleton.mp hx
    exact hchar _ (Nat.mod_lt _ (by decide))

theorem Network.graphic_addressPrefix (n : Network) : Text.Graphic n.addressPrefix.toList := by
  cases n <;> decide

theorem graphic_versionedText (version : UInt8) (payload : List UInt8) :
    Text.Graphic (versionedText version payload).toList := by
  rw [versionedText, String.toList_ofList]
  exact Base58.graphic_encodeChecked _

structure Representation.Graphic (r : Representation) : Prop where
  wif : ∀ w, r.wif = some w → Text.Graphic w.toList
  p2pkh : Text.Graphic r.p2pkh.toList
  p2wpkh : Text.Graphic r.p2wpkh.toList
  p2shP2wpkh : Text.Graphic r.p2shP2wpkh.toList

theorem ExtendedKey.graphic_represent (k : ExtendedKey) (n : Network) :
    (k.represent n).Graphic where
  wif := by
    intro w hw
    obtain ⟨key, -, rfl⟩ := Option.map_eq_some_iff.mp hw
    exact graphic_versionedText _ _
  p2pkh := graphic_versionedText _ _
  p2wpkh := by
    change Text.Graphic (Bech32.witnessAddress _ _ _).toList
    rw [Bech32.witnessAddress, String.toList_ofList]
    exact Bech32.graphic_encode n.graphic_addressPrefix _
  p2shP2wpkh := graphic_versionedText _ _

end WalletRecovery
