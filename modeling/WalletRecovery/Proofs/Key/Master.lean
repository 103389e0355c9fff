import WalletRecovery.Proofs.Key.Walk
import WalletRecovery.Proofs.Mnemonic.Checksum

/-! # Master keys of mnemonics

A mnemonic has a master key exactly if its words carry a secret and the hash of the seed begins with
a number that is a secret key. The words, the normal form of the passphrase and the kind of network
are all that the master key is made from. -/

namespace WalletRecovery.ExtendedKey

open Curve

variable {kind : NetworkKind} {code : Bytes (32 + 32)} {k : ExtendedKey}

/-- Whether a key is the master key that a hash stands for. -/
structure MasterOf (kind : NetworkKind) (code : Bytes (32 + 32)) (k : ExtendedKey) : Prop where
  kind : k.kind = kind
  depth : k.depth = 0
  parent : k.parent = Bytes.zero 4
  child : k.child = .zero
  chainCode : k.chainCode = code.split.2
  secret : ∃ key, k.material = .secret key ∧ key.toBytes = code.split.1

theorem ofSeedHash?_eq_some_iff : ofSeedHash? kind code = some k ↔ MasterOf kind code k := by
  constructor
  · intro h
    obtain ⟨key, hkey, rfl⟩ := Option.map_eq_some_iff.mp h
    exact ⟨rfl, rfl, rfl, rfl, rfl, key, rfl, SecretKey.ofBytes?_eq_some_iff.mp hkey⟩
  · intro h
    obtain ⟨key, hmaterial, hbytes⟩ := h.secret
    refine Option.map_eq_some_iff.mpr ⟨key, SecretKey.ofBytes?_eq_some_iff.mpr hbytes, ?_⟩
    cases k
    rw [mk.injEq]
    exact ⟨h.kind.symm, h.depth.symm, h.parent.symm, h.child.symm, h.chainCode.symm,
      hmaterial.symm⟩

theorem exists_masterOf_iff :
    (∃ k, MasterOf kind code k) ↔ 1 ≤ code.split.1.toNat ∧ code.split.1.toNat < order := by
  constructor
  · rintro ⟨k, h⟩
    obtain ⟨key, -, hbytes⟩ := h.secret
    have hvalue : code.split.1.toNat = key.value := by
      rw [← hbytes]
      exact Bytes.toNat_ofNat (key.value_lt.trans order_lt)
    rw [hvalue]
    exact ⟨key.value_pos, key.value_lt⟩
  · rintro ⟨hpos, hlt⟩
    let key : SecretKey := ⟨code.split.1.toNat, hpos, hlt⟩
    have hkey : key.toBytes = code.split.1 := Bytes.ofNat_toNat _
    exact ⟨⟨kind, 0, Bytes.zero 4, .zero, code.split.2, .secret key⟩, rfl, rfl, rfl, rfl, rfl, key,
      rfl, hkey⟩

theorem MasterOf.isPrivate (h : MasterOf kind code k) : k.isPrivate = true := by
  obtain ⟨key, hmaterial, -⟩ := h.secret
  exact isPrivate_iff.mpr ⟨key, hmaterial⟩

/-- The hash that stands for the master key of words and of a passphrase in normal form. -/
def masterCode (words : List String) (normal : List Char) : Bytes (32 + 32) :=
  let salt := utf8 "mnemonic" ++ utf8 (String.ofList normal)
  hmacSha512 (utf8 "Bitcoin seed") (pbkdf2 (utf8 (" ".intercalate words)) salt 2048).toList

variable {words : List String} {phrase passphrase : String} {n : Network}

theorem masterCode_eq (words : List String) (passphrase : String) :
    masterCode words (Text.nfkd passphrase.toList) =
      hmacSha512 (utf8 "Bitcoin seed") (Mnemonic.seed ⟨words⟩ passphrase).toList := rfl

theorem ofSeed_eq_ok_iff : ofSeed (Mnemonic.seed ⟨words⟩ passphrase).toList n = .ok k ↔
    MasterOf n.kind (masterCode words (Text.nfkd passphrase.toList)) k := by
  rw [← ofSeedHash?_eq_some_iff, masterCode_eq]
  constructor
  · intro h
    have hs := ofSeed?_of_ofSeed h
    rwa [ofSeed?] at hs
  · intro h
    rw [ofSeed, ofSeed?, h]
    rfl

theorem ofMnemonic_eq_ok_iff :
    ofMnemonic phrase passphrase n = .ok k ↔
      (∃ secret, Mnemonic.Carries (Mnemonic.wordsOf phrase) secret) ∧
      MasterOf n.kind (masterCode (Mnemonic.wordsOf phrase) (Text.nfkd passphrase.toList)) k := by
  rw [← Mnemonic.wordsOf_trim phrase]
  constructor
  · intro h
    rw [ofMnemonic] at h
    obtain ⟨m, hm, hseed⟩ := ok_of_bind_eq_ok h
    obtain ⟨hcarries, rfl⟩ := Mnemonic.parse_eq_ok_iff.mp (mapError_eq_ok_iff.mp hm)
    exact ⟨hcarries, ofSeed_eq_ok_iff.mp hseed⟩
  · rintro ⟨hcarries, hmaster⟩
    have hparse := Mnemonic.parse_eq_ok_iff.mpr ⟨hcarries, rfl⟩
    rw [ofMnemonic]
    exact bind_eq_ok_of_ok (mapError_eq_ok_iff.mpr hparse) (ofSeed_eq_ok_iff.mpr hmaster)

theorem ofMnemonic_congr {phrase' passphrase' : String} {n' : Network}
    (hwords : Mnemonic.wordsOf phrase' = Mnemonic.wordsOf phrase)
    (hpassphrase : Text.nfkd passphrase'.toList = Text.nfkd passphrase.toList)
    (hkind : n'.kind = n.kind) :
    ofMnemonic phrase' passphrase' n' = ofMnemonic phrase passphrase n := by
  have hparse : Mnemonic.parse (String.ofList (Text.trim phrase'.toList)) =
      Mnemonic.parse (String.ofList (Text.trim phrase.toList)) := by
    apply Mnemonic.parse_congr
    rw [Mnemonic.wordsOf_trim, Mnemonic.wordsOf_trim, hwords]
  have hseed (m : Mnemonic) :
      ofSeed (m.seed passphrase').toList n' = ofSeed (m.seed passphrase).toList n := by
    rw [Mnemonic.seed, Mnemonic.seed, hpassphrase, ofSeed, ofSeed, hkind]
  rw [ofMnemonic, ofMnemonic, hparse]
  simp only [hseed]

/-- A mnemonic has a master key if and only if its words in normal form carry a secret and the hash
of the seed begins with a secret key. The key is private and has no parent, and is made from these
words, the normal form of the passphrase and the kind of network. Blanks around and between the
words of a mnemonic make no difference. Those of a passphrase stay where they are, and are only
brought into normal form. -/
theorem ofMnemonic_exact (phrase passphrase : String) (n : Network) :
    let words := Mnemonic.wordsOf phrase
    let code := masterCode words (Text.nfkd passphrase.toList)
    ((∃ k, ofMnemonic phrase passphrase n = .ok k) ↔
      (∃ secret, Mnemonic.Carries words secret) ∧
        1 ≤ code.split.1.toNat ∧ code.split.1.toNat < order) ∧
    (∀ k, ofMnemonic phrase passphrase n = .ok k → k.isPrivate = true ∧ MasterOf n.kind code k) ∧
    (∀ (phrase' passphrase' : String) (n' : Network),
      Mnemonic.wordsOf phrase' = words ∨
        Text.words phrase'.toList = Text.words phrase.toList →
      Text.nfkd passphrase'.toList = Text.nfkd passphrase.toList → n'.kind = n.kind →
      ofMnemonic phrase' passphrase' n' = ofMnemonic phrase passphrase n) ∧
    ∀ c, Text.isBlank c = true → ∃ d, Text.isBlank d = true ∧ (d = c ∨ d = ' ' ∧ 0xa0 ≤ c.toNat) ∧
      ∀ cs ds, Text.nfkd (cs ++ c :: ds) = Text.nfkd cs ++ d :: Text.nfkd ds := by
  intro words code
  refine ⟨?_, ?_, ?_, ?_⟩
  · constructor
    · rintro ⟨k, hk⟩
      obtain ⟨hcarries, hmaster⟩ := ofMnemonic_eq_ok_iff.mp hk
      exact ⟨hcarries, exists_masterOf_iff.mp ⟨k, hmaster⟩⟩
    · rintro ⟨hcarries, hscalar⟩
      obtain ⟨k, hmaster⟩ := (@exists_masterOf_iff n.kind code).mpr hscalar
      exact ⟨k, ofMnemonic_eq_ok_iff.mpr ⟨hcarries, hmaster⟩⟩
  · intro k hk
    have hmaster := (ofMnemonic_eq_ok_iff.mp hk).2
    exact ⟨hmaster.isPrivate, hmaster⟩
  · intro phrase' passphrase' n' hphrase hpassphrase hkind
    refine ofMnemonic_congr ?_ hpassphrase hkind
    rcases hphrase with hwords | hpieces
    · exact hwords
    · exact Mnemonic.wordsOf_congr hpieces
  · intro c hc
    obtain ⟨d, -, hd, hkept, hparts⟩ := Text.nfkd_append_cons hc
    exact ⟨d, hd, hkept, hparts⟩

/-- Twelve words carry sixteen zeros, and an ideographic space between two of them is as good as any
other blank. -/
theorem ofMnemonic_exact_abandon :
    let words := List.replicate 11 "abandon" ++ ["about"]
    let phrase := " ".intercalate words
    let spaced := "\t" ++ "\u3000".intercalate words ++ "\n"
    Mnemonic.Carries (Mnemonic.wordsOf phrase) (List.replicate 16 0) ∧
      ofMnemonic spaced "" .signet = ofMnemonic phrase "" .testnet := by
  intro words phrase spaced
  have hsame := (ofMnemonic_exact phrase "" .testnet).2.2.1
  refine ⟨⟨by decide +kernel, by decide +kernel, by decide +kernel⟩, ?_⟩
  exact hsame spaced "" .signet (.inr (by decide +kernel)) rfl rfl

end WalletRecovery.ExtendedKey
