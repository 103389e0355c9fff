import WalletRecovery.Proofs.CommandLine.Outcome
import WalletRecovery.Proofs.ImportScript.KeyLine
import WalletRecovery.Proofs.Key.Address

/-! # The kind of network of a run

Whatever way the root key comes in, it is of the kind of the selected network, and derivation keeps
the kind. So nothing in a script belongs to the other kind of network. -/

namespace WalletRecovery

/-- Whether all texts of a key that tell a kind of network tell this one. -/
structure Representation.OfKind (r : Representation) (kind : NetworkKind) : Prop where
  wif : ∀ text, r.wif = some text → ∃ payload,
    Base58.decodeChecked text.toList = .ok ((if kind = .main then 0x80 else 0xef) :: payload)
  p2pkh : ∃ payload,
    Base58.decodeChecked r.p2pkh.toList = .ok ((if kind = .main then 0x00 else 0x6f) :: payload)
  p2shP2wpkh : ∃ payload,
    Base58.decodeChecked r.p2shP2wpkh.toList =
      .ok ((if kind = .main then 0x05 else 0xc4) :: payload)
  p2wpkh : ∃ hrp ∈ (if kind = .main then ["bc"] else ["tb", "bcrt"]), ∃ program,
    Bech32.decodeWitness? r.p2wpkh.toList = some (hrp.toList, 0, program)

theorem ExtendedKey.ofKind_represent (k : ExtendedKey) (n : Network) :
    (k.represent n).OfKind n.kind := by
  have hread := k.readsBack_represent n
  refine ⟨?_, ⟨_, hread.p2pkh⟩, ⟨_, hread.p2shP2wpkh⟩,
    ⟨n.addressPrefix, ?_, _, decodeWitness?_hash n _⟩⟩
  · intro text htext
    obtain ⟨secret, -, hdecode, -⟩ := hread.wif text htext
    exact ⟨_, hdecode⟩
  · cases n <;> decide

namespace ExtendedKey

theorem kind_of_parseRoot {text : String} {n : Network} {k : ExtendedKey}
    (h : parseRoot text n = .ok k) : k.kind = n.kind := by
  rw [parseRoot] at h
  split at h
  · cases h
  · split at h
    · next hkind =>
      obtain rfl := Except.ok.inj h
      exact hkind
    · cases h

theorem kind_of_seedHash {kind : NetworkKind} {code : Bytes 64} {k : ExtendedKey}
    (h : ofSeedHash? kind code = some k) : k.kind = kind := by
  obtain ⟨key, -, rfl⟩ := Option.map_eq_some_iff.mp h
  rfl

theorem kind_of_ofMnemonic {phrase passphrase : String} {n : Network} {k : ExtendedKey}
    (h : ofMnemonic phrase passphrase n = .ok k) : k.kind = n.kind := by
  rw [ofMnemonic] at h
  obtain ⟨m, -, h⟩ := ok_of_bind_eq_ok h
  have hs := ofSeed?_of_ofSeed h
  rw [ofSeed?] at hs
  exact kind_of_seedHash hs

end ExtendedKey

namespace CommandLine

variable {a : Arguments} {w : World}

theorem KeyAsked.kind {n : Network} {c c' : Console} {root : ExtendedKey}
    (h : KeyAsked n c (.ok root) c') : root.kind = n.kind := by
  generalize hroot : (Except.ok root : Except RunError ExtendedKey) = r at h
  cases h with
  | noSource | noText | noPhrase | noPassphrase => cases hroot
  | text => exact ExtendedKey.kind_of_parseRoot (mapError_eq_ok_iff.mp hroot.symm)
  | phrase => exact ExtendedKey.kind_of_ofMnemonic (mapError_eq_ok_iff.mp hroot.symm)

theorem KeyStage.kind {c c' : Console} {root : ExtendedKey} (h : KeyStage a c (.ok root) c') :
    root.kind = a.network.kind := by
  generalize hroot : (Except.ok root : Except RunError ExtendedKey) = r at h
  cases h with
  | given => exact ExtendedKey.kind_of_parseRoot (mapError_eq_ok_iff.mp hroot.symm)
  | asked _ hasked => exact KeyAsked.kind (hroot ▸ hasked)

theorem Planned.kind {job : Job} (h : Planned a w job) :
    job.root.kind = a.network.kind ∧ job.network = a.network := by
  cases h with
  | mk hprepared =>
    cases hprepared with
    | mk _ hkey => exact ⟨hkey.kind, rfl⟩

/-- A run writes nothing or a script. Below the root key of the script all keys are of the kind of
the selected network, and so are the private key and the addresses in every one of its lines. -/
theorem Invocation.outcome_kind {i : Invocation}
    (h : Arguments.parse i.arguments i.environmentValue? = .ok a) (w : World) :
    ((i.outcome w).output = [] ∨ ∃ job, Planned a w job ∧
      job.Scripted i.now (job.runScript i.now {}).1 (i.outcome w).output) ∧
    ∀ job, Planned a w job →
      job.root.kind = a.network.kind ∧
      (∀ path key, job.root.derive path = .ok key → key.kind = job.root.kind) ∧
      ∀ b n line, job.keyLine b n = .ok line → ∃ path key fields,
        job.keyPath b n = .ok path ∧ job.root.derive path = .ok key ∧
        line.toList.splitOn ' ' = fields.map String.toList ∧
        LineFields (key.represent a.network) (labelBelow job.plan.derivationPath.text b n)
          job.plan.strategy fields ∧
        (key.represent a.network).OfKind key.kind := by
  constructor
  · obtain ⟨ending, t, hstaged⟩ := exists_staged a i.now w
    rw [hstaged.outcome_eq h]
    cases hstaged with
    | file | key | birthday | plan => exact Or.inl rfl
    | script hjob => exact Or.inr ⟨_, hjob, Job.runScript_scripted _ _⟩
  · intro job hjob
    obtain ⟨hkind, hnetwork⟩ := hjob.kind
    have hderived (path : DerivationPath) (key : ExtendedKey)
        (hkey : job.root.derive path = .ok key) : key.kind = job.root.kind :=
      (ExtendedKey.deriveSteps_descends hkey).1.kind
    refine ⟨hkind, hderived, fun b n line hline => ?_⟩
    obtain ⟨path, key, fields, hpath, -, hkey, hsplit, -, hfields⟩ :=
      (Job.truthful_of_keyLine hline).readBack
    rw [hnetwork] at hfields
    refine ⟨path, key, fields, hpath, hkey, hsplit, hfields, ?_⟩
    rw [hderived path key hkey, hkind]
    exact key.ofKind_represent a.network

theorem Invocation.outcome_kind_sample :
    let i : Invocation := {
      arguments := ["--derivationpath", "m", "--recoverywindow", "1"]
      environment := [("KEYSWEEP_ROOTKEY", ExtendedKey.sampleRoot.text)]
      now := ⟨0, 0, by decide, by decide, by decide, by decide⟩ }
    let a : Arguments := {
      rootKey := some ExtendedKey.sampleRoot.text
      settings := { derivationPath := some "m", recoveryWindow := 1 } }
    Arguments.parse i.arguments i.environmentValue? = .ok a ∧ Planned a {} Job.sample ∧
      ∀ b, ∃ line, Job.sample.keyLine b 0 = .ok line ∧
        ∃ wif : String, wif.toList ∈ line.toList.splitOn ' ' ∧
          ∃ payload, Base58.decodeChecked wif.toList = .ok (0x80 :: payload) := by
  intro i a
  have hparse : Arguments.parse i.arguments i.environmentValue? = .ok a := rfl
  have hwell : ExtendedKey.sampleRoot.WellFormed := trivial
  have hresolve : a.settings.resolve .bitcoin = .ok Job.sample.plan :=
    Settings.resolve_of_ok (by decide) rfl
  have hjob : Planned a {} Job.sample :=
    .mk (.mk rfl (keyStage_of_text hwell rfl rfl) (.unasked rfl)) hresolve
  obtain ⟨line, hline, -⟩ :=
    Job.runScript_of_ready Job.sample_tweaksValid ⟨by decide, Or.inl rfl⟩ (by decide)
  obtain ⟨hkind, hderived, hlines⟩ := (outcome_kind hparse {}).2 _ hjob
  refine ⟨hparse, hjob, fun b => ⟨line b 0, hline b 0 (by decide), ?_⟩⟩
  obtain ⟨path, key, fields, -, hkey, hsplit, hfields, hread⟩ := hlines b 0 _ (hline b 0 (by decide))
  rw [hderived path key hkey] at hread
  have hdirect : LineFields _ _ .directImport fields := hfields
  cases hdirect with
  | directImport hwif =>
    refine ⟨_, ?_, hread.wif _ hwif⟩
    rw [hsplit]
    exact List.mem_map_of_mem (by simp)

end CommandLine

end WalletRecovery
