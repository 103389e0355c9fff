import WalletRecovery.Key.Codec
import WalletRecovery.Proofs.Curve.Compressed
import WalletRecovery.Proofs.Encoding.Base58

/-! # Encoded keys read back

Every field of a payload is read back from its bytes and the other way round, except the byte in
front of a secret, which reading ignores and writing sets to zero. So a text is read as a key
exactly if it encodes the payload of that key up to this byte. -/

namespace WalletRecovery

open Curve

namespace NetworkKind

theorem ofVersion?_eq_some_iff {version : NetworkKind → Bytes 4}
    (hne : version .main ≠ version .test) {bs : Bytes 4} {kind : NetworkKind} :
    ofVersion? version bs = some kind ↔ version kind = bs := by
  by_cases hm : version .main = bs
  · subst bs
    cases kind with
    | main => simp [ofVersion?]
    | test => simp [ofVersion?, hne.symm]
  · by_cases ht : version .test = bs
    · subst bs
      cases kind <;> simp [ofVersion?, hne]
    · cases kind <;> simp [ofVersion?, hm, ht]

theorem ofVersion?_secret_iff {bs : Bytes 4} {kind : NetworkKind} :
    ofVersion? secretVersion bs = some kind ↔ secretVersion kind = bs :=
  ofVersion?_eq_some_iff (by decide)

theorem ofVersion?_public_iff {bs : Bytes 4} {kind : NetworkKind} :
    ofVersion? publicVersion bs = some kind ↔ publicVersion kind = bs :=
  ofVersion?_eq_some_iff (by decide)

theorem secretVersion_ne_publicVersion (kind kind' : NetworkKind) :
    kind.secretVersion ≠ kind'.publicVersion := by
  cases kind <;> cases kind' <;> decide

end NetworkKind

namespace ChildNumber

theorem code_lt (c : ChildNumber) : c.code < 256 ^ 4 := by
  have h := c.index_lt
  have h2 : indexLimit + indexLimit = 256 ^ 4 := by decide
  rw [code]
  split <;> omega

theorem code_ofCode {n : ℕ} (h : n < 256 ^ 4) : (ofCode n).code = n := by
  have h2 : indexLimit + indexLimit = 256 ^ 4 := by decide
  simp only [code, ofCode, decide_eq_true_eq]
  split
  · next hle => rw [Nat.mod_eq_sub_mod hle, Nat.mod_eq_of_lt (by omega), Nat.add_sub_cancel' hle]
  · next hlt => exact Nat.mod_eq_of_lt (by omega)

theorem ofBytes_toBytes (c : ChildNumber) : ofBytes c.toBytes = c := by
  rw [ofBytes, toBytes, Bytes.toNat_ofNat c.code_lt, ofCode_code]

theorem toBytes_ofBytes (bs : Bytes 4) : (ofBytes bs).toBytes = bs := by
  rw [ofBytes, toBytes, code_ofCode bs.toNat_lt, Bytes.ofNat_toNat]

end ChildNumber

theorem Curve.SecretKey.ofBytes?_eq_some_iff {bs : Bytes 32} {key : SecretKey} :
    SecretKey.ofBytes? bs = some key ↔ key.toBytes = bs := by
  constructor
  · intro h
    simp only [SecretKey.ofBytes?, SecretKey.ofNat?, Option.dite_none_right_eq_some,
      Option.some.injEq] at h
    obtain ⟨_, rfl⟩ := h
    exact Bytes.ofNat_toNat bs
  · rintro rfl
    have hlt : order < 256 ^ 32 := by decide
    rw [SecretKey.ofBytes?, SecretKey.toBytes, Bytes.toNat_ofNat (key.value_lt.trans hlt),
      SecretKey.ofNat?_value]

namespace KeyFields

theorem cut_join (f : KeyFields) : cut f.join = f := by
  have h₁ : Bytes.split (show Bytes (4 + 74) from f.join) = (f.version, _) :=
    Bytes.split_append _ _
  have h₂ : Bytes.split (show Bytes (1 + 73) from f.depth ++ (f.parent ++ (f.child ++
      (f.chainCode ++ f.key)))) = (f.depth, _) := Bytes.split_append _ _
  have h₃ : Bytes.split (show Bytes (4 + 69) from f.parent ++ (f.child ++ (f.chainCode ++ f.key))) =
      (f.parent, _) := Bytes.split_append _ _
  have h₄ : Bytes.split (show Bytes (4 + 65) from f.child ++ (f.chainCode ++ f.key)) =
      (f.child, _) := Bytes.split_append _ _
  have h₅ : Bytes.split (show Bytes (32 + 33) from f.chainCode ++ f.key) =
      (f.chainCode, f.key) := Bytes.split_append _ _
  simp only [cut, h₁, h₂, h₃, h₄, h₅]

theorem join_cut (payload : Bytes payloadLength) : (cut payload).join = payload := by
  apply Bytes.ext
  simp only [cut, join, Bytes.split, Bytes.toList_append, List.take_append_drop]

/-- The fields with the byte in front of the secret set to zero. -/
def cleared (f : KeyFields) : KeyFields :=
  { f with key := Bytes.single 0 ++ (Bytes.split (show Bytes (1 + 32) from f.key)).2 }

theorem toList_join (f : KeyFields) :
    f.join.toList = (f.version.toList ++ (f.depth.toList ++ (f.parent.toList ++
      (f.child.toList ++ f.chainCode.toList)))) ++ f.key.toList := by
  simp only [join, Bytes.toList_append, List.append_assoc]

/-- That byte has the index 45. -/
theorem toList_join_cleared (f : KeyFields) : f.cleared.join.toList = f.join.toList.set 45 0 := by
  obtain ⟨x, rest, hkey⟩ := Bytes.exists_single_append (show Bytes (1 + 32) from f.key)
  have hcleared : f.cleared.key = Bytes.single 0 ++ rest := by
    change Bytes.single 0 ++ (Bytes.split (show Bytes (1 + 32) from f.key)).2 = _
    rw [hkey, Bytes.split_append]
  have hlength : (f.version.toList ++ (f.depth.toList ++ (f.parent.toList ++
      (f.child.toList ++ f.chainCode.toList)))).length = 45 := by
    simp only [List.length_append, Bytes.length_eq]
  have hset : f.key.toList.set 0 0 = f.cleared.key.toList := by
    rw [hcleared, show f.key = Bytes.single x ++ rest from hkey]
    rfl
  rw [toList_join, toList_join, List.set_append_right _ _ (Nat.le_of_eq hlength), hlength, hset]
  rfl

end KeyFields

def KeyMaterial.Valid : KeyMaterial → Prop
  | secret _ => True
  | point p => p.Compressible

namespace ExtendedKey

/-- Whether a key holds a secret or a point of the curve. -/
def WellFormed (k : ExtendedKey) : Prop :=
  k.material.Valid

theorem ofFields_fields (k : ExtendedKey) : ofFields k.fields k.kind k.material = k := by
  simp only [ofFields, fields, ChildNumber.ofBytes_toBytes]
  rfl

theorem versioned_of_secret {k : ExtendedKey} {key : SecretKey} (h : k.material = .secret key) :
    k.versioned = (k.kind.secretVersion, Bytes.single 0 ++ key.toBytes) := by
  rw [versioned, h]

theorem versioned_of_point {k : ExtendedKey} {p : Point} (h : k.material = .point p) :
    k.versioned = (k.kind.publicVersion, p.compress) := by
  rw [versioned, h]

theorem isPrivate_iff {k : ExtendedKey} : k.isPrivate = true ↔ ∃ key, k.material = .secret key := by
  rw [isPrivate, secret?]
  cases k.material <;> simp

theorem isPrivate_eq_false_iff {k : ExtendedKey} :
    k.isPrivate = false ↔ ∃ p, k.material = .point p := by
  rw [isPrivate, secret?]
  cases k.material <;> simp

/-- Reading fields as a secret key gives the key that has these fields but for the ignored byte. -/
theorem ofSecretFields?_eq_ok_iff {f : KeyFields} {k : ExtendedKey} :
    ofSecretFields? f = .ok k ↔ k.isPrivate = true ∧ k.fields = f.cleared := by
  constructor
  · intro h
    simp only [ofSecretFields?] at h
    split at h
    · cases h
    next kind hkind =>
    split at h
    · cases h
    next key hkey =>
    obtain rfl := Except.ok.inj h
    have hversion := NetworkKind.ofVersion?_secret_iff.mp hkind
    have hsecret := SecretKey.ofBytes?_eq_some_iff.mp hkey
    refine ⟨rfl, ?_⟩
    simp only [fields, versioned, ofFields, KeyFields.cleared, hversion, hsecret,
      ChildNumber.toBytes_ofBytes, Bytes.single_byte]
  · rintro ⟨hp, hf⟩
    obtain ⟨key, hkey⟩ := isPrivate_iff.mp hp
    have hversion : k.kind.secretVersion = f.version := by
      have h := congrArg KeyFields.version hf
      rwa [fields, versioned_of_secret hkey] at h
    have hbytes : key.toBytes = (Bytes.split (show Bytes (1 + 32) from f.key)).2 := by
      have h := congrArg (fun g : KeyFields => (Bytes.split (show Bytes (1 + 32) from g.key)).2) hf
      simp only [fields, versioned_of_secret hkey, KeyFields.cleared, Bytes.split_append] at h
      exact h
    have hfields : ofFields f k.kind (.secret key) = k := by
      rw [← hkey]
      change ofFields f.cleared k.kind k.material = k
      rw [← hf, ofFields_fields]
    simp only [ofSecretFields?, NetworkKind.ofVersion?_secret_iff.mpr hversion,
      SecretKey.ofBytes?_eq_some_iff.mpr hbytes, hfields]

theorem ofPublicFields?_eq_ok_iff {f : KeyFields} {k : ExtendedKey} :
    ofPublicFields? f = .ok k ↔ k.isPrivate = false ∧ k.WellFormed ∧ k.fields = f := by
  constructor
  · intro h
    simp only [ofPublicFields?] at h
    split at h
    · cases h
    next kind hkind =>
    split at h
    · cases h
    next p hp =>
    obtain rfl := Except.ok.inj h
    have hversion := NetworkKind.ofVersion?_public_iff.mp hkind
    obtain ⟨hvalid, hpoint⟩ := Point.decompress?_eq_some_iff.mp hp
    refine ⟨rfl, hvalid, ?_⟩
    simp only [fields, versioned, ofFields, hversion, hpoint, ChildNumber.toBytes_ofBytes,
      Bytes.single_byte]
  · rintro ⟨hp, hvalid, rfl⟩
    obtain ⟨p, hpoint⟩ := isPrivate_eq_false_iff.mp hp
    rw [WellFormed, hpoint] at hvalid
    have hfields : ofFields k.fields k.kind (.point p) = k := by
      rw [← hpoint, ofFields_fields]
    have hversion : k.kind.publicVersion = k.fields.version := by
      rw [fields, versioned_of_point hpoint]
    have hkey : p.compress = k.fields.key := by
      rw [fields, versioned_of_point hpoint]
    simp only [ofPublicFields?, NetworkKind.ofVersion?_public_iff.mpr hversion,
      Point.decompress?_eq_some_iff.mpr ⟨hvalid, hkey⟩, hfields]

theorem fieldsOf?_eq_ok_iff {cs : List Char} {f : KeyFields} :
    fieldsOf? cs = .ok f ↔ cs = Base58.encodeChecked f.join.toList := by
  rw [← Base58.decodeChecked_eq_ok_iff]
  constructor
  · intro h
    cases hd : Base58.decodeChecked cs with
    | error e => rw [fieldsOf?, hd] at h; cases h
    | ok bs =>
      simp only [fieldsOf?, hd, Bytes.ofList?] at h
      split at h
      · cases h
      next payload hp =>
      obtain rfl := Except.ok.inj h
      simp only [Option.dite_none_right_eq_some, Option.some.injEq] at hp
      obtain ⟨_, rfl⟩ := hp
      rw [KeyFields.join_cut]
  · intro h
    simp only [fieldsOf?, h, Bytes.ofList?_toList, KeyFields.cut_join]

theorem parseSecret_eq_ok_iff {cs : List Char} {k : ExtendedKey} :
    parseSecret cs = .ok k ↔ ∃ f : KeyFields, cs = Base58.encodeChecked f.join.toList ∧
      k.isPrivate = true ∧ k.fields = f.cleared := by
  simp only [← fieldsOf?_eq_ok_iff, ← ofSecretFields?_eq_ok_iff, parseSecret]
  cases fieldsOf? cs with
  | error e => exact iff_of_false (fun h => nomatch h) (fun ⟨_, h, _⟩ => nomatch h)
  | ok f => simp [bind, Except.bind]

theorem parsePublic_eq_ok_iff {cs : List Char} {k : ExtendedKey} :
    parsePublic cs = .ok k ↔ cs = Base58.encodeChecked k.payload.toList ∧
      k.isPrivate = false ∧ k.WellFormed := by
  constructor
  · intro h
    rw [parsePublic] at h
    cases hf : fieldsOf? cs with
    | error e => rw [hf] at h; cases h
    | ok f =>
      rw [hf] at h
      obtain ⟨hp, hvalid, rfl⟩ := ofPublicFields?_eq_ok_iff.mp h
      exact ⟨fieldsOf?_eq_ok_iff.mp hf, hp, hvalid⟩
  · rintro ⟨hcs, hp, hvalid⟩
    rw [parsePublic, fieldsOf?_eq_ok_iff.mpr hcs]
    exact ofPublicFields?_eq_ok_iff.mpr ⟨hp, hvalid, rfl⟩

/-- The versions keep the two ways to read a text apart. -/
theorem parsePublic_ne_ok_of_parseSecret {cs : List Char} {k k' : ExtendedKey}
    (h : parseSecret cs = .ok k) : parsePublic cs ≠ .ok k' := by
  intro h'
  obtain ⟨f, hf, hp, hk⟩ := parseSecret_eq_ok_iff.mp h
  obtain ⟨hf', hp', -⟩ := parsePublic_eq_ok_iff.mp h'
  have hsame : f = k'.fields :=
    Except.ok.inj ((fieldsOf?_eq_ok_iff.mpr hf).symm.trans (fieldsOf?_eq_ok_iff.mpr hf'))
  obtain ⟨key, hkey⟩ := isPrivate_iff.mp hp
  obtain ⟨p, hpoint⟩ := isPrivate_eq_false_iff.mp hp'
  -- the text has one version, which cannot be that of a secret and that of a point
  have hversion : k.fields.version = k'.fields.version := by
    rw [hk, hsame]
    rfl
  rw [fields, versioned_of_secret hkey, fields, versioned_of_point hpoint] at hversion
  exact NetworkKind.secretVersion_ne_publicVersion _ _ hversion

theorem parse_of_errors {s : String} {e e' : KeyError}
    (h : parseSecret (Text.trim s.toList) = .error e)
    (h' : parsePublic (Text.trim s.toList) = .error e') : parse s = .error e := by
  simp only [parse, h, h']

theorem parse_eq_ok_iff {s : String} {k : ExtendedKey} :
    parse s = .ok k ↔ parseSecret (Text.trim s.toList) = .ok k ∨
      parsePublic (Text.trim s.toList) = .ok k := by
  simp only [parse]
  cases h : parseSecret (Text.trim s.toList) with
  | ok k' =>
    have hnot : parsePublic (Text.trim s.toList) ≠ .ok k := parsePublic_ne_ok_of_parseSecret h
    simp [hnot]
  | error e =>
    cases parsePublic (Text.trim s.toList) <;> simp

theorem cleared_fields {k : ExtendedKey} (h : k.isPrivate = true) :
    k.fields.cleared = k.fields := by
  obtain ⟨key, hkey⟩ := isPrivate_iff.mp h
  simp only [KeyFields.cleared, fields, versioned_of_secret hkey, Bytes.split_append]

theorem toList_text (k : ExtendedKey) : k.text.toList = Base58.encodeChecked k.payload.toList :=
  String.toList_ofList

theorem parse_text {k : ExtendedKey} (hk : k.WellFormed) {ws ws' : List Char}
    (hws : Text.AllBlank ws) (hws' : Text.AllBlank ws') :
    parse (String.ofList ws ++ k.text ++ String.ofList ws') = .ok k := by
  have htrim : Text.trim (String.ofList ws ++ k.text ++ String.ofList ws').toList =
      Base58.encodeChecked k.payload.toList := by
    rw [String.toList_append, String.toList_append, String.toList_ofList, String.toList_ofList,
      toList_text]
    exact Text.trim_append_append hws (Base58.graphic_encodeChecked _).noBlank hws'
  rw [parse_eq_ok_iff, htrim, parseSecret_eq_ok_iff, parsePublic_eq_ok_iff]
  cases hp : k.isPrivate with
  | true => exact Or.inl ⟨k.fields, rfl, rfl, (cleared_fields hp).symm⟩
  | false => exact Or.inr ⟨rfl, rfl, hk⟩

/-- A text that is read as a key encodes the payload of that key, up to the ignored byte. -/
theorem text_of_parse {s : String} {k : ExtendedKey} (h : parse s = .ok k) :
    k.WellFormed ∧ ∃ payload : Bytes payloadLength,
      Text.trim s.toList = Base58.encodeChecked payload.toList ∧
      k.payload.toList =
        if k.isPrivate = true then payload.toList.set 45 0 else payload.toList := by
  rcases parse_eq_ok_iff.mp h with h | h
  · obtain ⟨f, hf, hp, hk⟩ := parseSecret_eq_ok_iff.mp h
    refine ⟨?_, f.join, hf, ?_⟩
    · obtain ⟨key, hkey⟩ := isPrivate_iff.mp hp
      rw [WellFormed, hkey]
      trivial
    · rw [if_pos hp, payload, hk, KeyFields.toList_join_cleared]
  · obtain ⟨hcs, hp, hvalid⟩ := parsePublic_eq_ok_iff.mp h
    refine ⟨hvalid, k.payload, hcs, ?_⟩
    rw [if_neg (by simp [hp])]

/-- Reading keys and writing them. Every well-formed key is read back from its text, with any blanks
around it. A text that is read as a key is the text of that key once it is trimmed, unless it
encodes a secret behind a byte that is not zero: then the text of the key encodes the same payload
with that byte zero. No text is both a secret and a public key, and one that is neither is reported
as the malformed secret key that it is. -/
theorem parse_inverts_text :
    (∀ k : ExtendedKey, k.WellFormed → ∀ ws ws', Text.AllBlank ws → Text.AllBlank ws' →
      parse (String.ofList ws ++ k.text ++ String.ofList ws') = .ok k) ∧
    (∀ s k, parse s = .ok k → k.WellFormed ∧ ∃ payload : Bytes payloadLength,
      Base58.decodeChecked (Text.trim s.toList) = .ok payload.toList ∧
      k.text = if k.isPrivate = true ∧ payload.toList[45]? ≠ some 0 then
          String.ofList (Base58.encodeChecked (payload.toList.set 45 0))
        else String.ofList (Text.trim s.toList)) ∧
    (∀ cs k k', parseSecret cs = .ok k → parsePublic cs ≠ .ok k') ∧
    ∀ s e e', parseSecret (Text.trim s.toList) = .error e →
      parsePublic (Text.trim s.toList) = .error e' → parse s = .error e ∧
        e.diagnosis = Diagnosis.within ("malformed extended key: " ++ e.encoding.message)
          e.encoding := by
  refine ⟨?_, ?_, ?_, ?_⟩
  · intro k hk ws ws' hws hws'
    exact parse_text hk hws hws'
  · intro s k h
    obtain ⟨hk, payload, hs, hpayload⟩ := text_of_parse h
    refine ⟨hk, payload, Base58.decodeChecked_eq_ok_iff.mpr hs, ?_⟩
    rw [text, hpayload, hs]
    by_cases hp : k.isPrivate = true
    · by_cases h45 : payload.toList[45]? = some 0
      · have hset : payload.toList.set 45 0 = payload.toList := by
          obtain ⟨hlt, h0⟩ := List.getElem?_eq_some_iff.mp h45
          have hself := List.set_getElem_self hlt
          rwa [h0] at hself
        rw [if_pos hp, if_neg (fun hn => hn.2 h45), hset]
      · rw [if_pos hp, if_pos ⟨hp, h45⟩]
    · rw [if_neg hp, if_neg (fun hn => hp hn.1)]
  · intro cs k k' h
    exact parsePublic_ne_ok_of_parseSecret h
  · intro s e e' h h'
    exact ⟨parse_of_errors h h', rfl⟩

/-- The generator is read back as a public key at the greatest depth, and the empty text is none. -/
theorem parse_inverts_text_generator :
    let k : ExtendedKey := ⟨.test, 255, Bytes.zero 4, ⟨7, true, by decide⟩, Bytes.zero 32,
      .point Point.generator⟩
    k.WellFormed ∧ parse (String.ofList [' '] ++ k.text ++ String.ofList ['\n']) = .ok k ∧
      parse "" = .error (.base58 (.tooShort 0)) := by
  intro k
  have hk : k.WellFormed := ⟨Point.generator_onCurve, nofun⟩
  have hblank : Text.AllBlank [' '] := List.forall_mem_singleton.mpr rfl
  have hfeed : Text.AllBlank ['\n'] := List.forall_mem_singleton.mpr rfl
  obtain ⟨hread, -, -, herror⟩ := parse_inverts_text
  exact ⟨hk, hread k hk _ _ hblank hfeed, (herror "" _ _ rfl rfl).1⟩

end ExtendedKey

end WalletRecovery
