import WalletRecovery.Proofs.CommandLine.Outcome
import WalletRecovery.Proofs.ImportScript.Failure
import WalletRecovery.Proofs.ImportScript.KeyLine
import WalletRecovery.Proofs.Key.Address

/-! # What a run tells of its root key

The log and the report of a run tell of the root key no more than its fingerprint, its depth and
whether it holds a secret. Private keys stand in the script only, and a warning says so. -/

namespace WalletRecovery

theorem Base58.mem_alphabet_of_mem_encode {bs : List UInt8} {c : Char} (h : c ∈ encode bs) :
    c ∈ alphabet := by
  rw [encode_eq] at h
  obtain ⟨d, hd, rfl⟩ := List.mem_map.mp h
  have hlt : d < alphabet.length := Numeral.rebase_lt (by decide) hd
  rw [digitChar_eq_getElem hlt]
  exact List.getElem_mem hlt

theorem ExtendedKey.zero_mem_hex_publicKey (k : ExtendedKey) : '0' ∈ k.publicKey.hex.toList := by
  rw [Bytes.hex, String.toList_ofList, publicKey]
  cases k.publicPoint with
  | infinity => decide
  | affine x y =>
    have hmark : Numeral.hexChar ((Curve.parityMark y).toNat / 16) = '0' := by
      rcases Curve.Field.parityMark_eq y with h | h <;> rw [h] <;> rfl
    rw [Curve.Point.compress, hexText, Bytes.toList_append]
    exact List.mem_append_left _ (hmark ▸ List.mem_cons_self)

theorem ExtendedKey.wif_notMem_watchOnly {k : ExtendedKey} {n : Network} {wif : String}
    (h : (k.represent n).wif = some wif) (label : String) :
    wif ∉ ["bitcoin-cli", "importpubkey", k.publicKey.hex, "\"" ++ label ++ "\"", "false"] := by
  obtain ⟨key, -, rfl⟩ := Option.map_eq_some_iff.mp h
  generalize hpayload : n.kind.wifVersion :: (key.toBytes.toList ++ [1]) = payload
  have hlength : payload.length = 34 := by
    rw [← hpayload, List.length_cons, List.length_append, key.toBytes.length_eq]
    rfl
  rw [versionedText, hpayload]
  -- one of the fields has digits of base 58 only, but it stands for fewer bytes
  have hdecode : (Base58.decode "importpubkey".toList).map List.length = .ok 9 := by decide +kernel
  have hother {text : String} (c : Char) (hc : c ∈ text.toList) (hno : c ∉ Base58.alphabet) :
      String.ofList (Base58.encodeChecked payload) ≠ text := by
    rintro rfl
    rw [String.toList_ofList] at hc
    exact hno (Base58.mem_alphabet_of_mem_encode hc)
  simp only [List.mem_cons, List.not_mem_nil, or_false, not_or]
  refine ⟨hother '-' (by decide) (by decide), ?_, hother '0' k.zero_mem_hex_publicKey (by decide),
    hother '"' ?_ (by decide), hother 'l' (by decide) (by decide)⟩
  · intro htext
    rw [← htext, String.toList_ofList, Base58.encodeChecked,
      Base58.decode_eq_ok_iff.mpr rfl] at hdecode
    have hbytes : (payload ++ Base58.checksum payload).length = 9 := Except.ok.inj hdecode
    rw [List.length_append, hlength, Base58.length_checksum] at hbytes
    cases hbytes
  · simp

theorem Strategy.exportsPrivateKeys_iff {s : Strategy} {k : ExtendedKey} {n : Network}
    {l : KeyLabel} {line : String} (h : s.line (k.represent n) l = .ok line) :
    s.exportsPrivateKeys = true ↔
      ∃ wif, (k.represent n).wif = some wif ∧ wif.toList ∈ line.toList.splitOn ' ' := by
  obtain ⟨fields, hfields, hline⟩ := exists_fields_of_line h
  have hlabel : Text.Graphic l.text.toList :=
    graphic_of_labelChar fun c hc => labelChar_of_mem_labelBelow hc
  rw [hline, splitOn_intercalate_of_graphic hfields.ne_nil
    (hfields.graphic (k.graphic_represent n) hlabel)]
  cases hfields with
  | directImport hwif =>
    exact iff_of_true rfl ⟨_, hwif, List.mem_map_of_mem (by simp)⟩
  | watchOnlyImport =>
    refine iff_of_false Bool.false_ne_true ?_
    rintro ⟨wif, hwif, hmem⟩
    obtain ⟨field, hfield, heq⟩ := List.mem_map.mp hmem
    obtain rfl := String.toList_inj.mp heq
    exact ExtendedKey.wif_notMem_watchOnly hwif _ hfield
  | bulkDump hwif =>
    exact iff_of_true rfl ⟨_, hwif, List.mem_map_of_mem List.mem_cons_self⟩

namespace CommandLine

/-- Whether two runs end in the same way: both well, both for want of a plan, or both at the same
key. -/
inductive Ending.Alike : Ending → Ending → Prop where
  | completed : Alike .completed .completed
  | plan (e e' : PlanError) : Alike (.failed (.plan e)) (.failed (.plan e'))
  | key {e e' : ScriptError} : e'.key? = e.key? →
      Alike (.failed (.script e)) (.failed (.script e'))

/-- Whether a run fails at a key that does not exist, which only the hashes decide. -/
def Ending.meetsNoChild : Ending → Bool
  | .failed (.script e) => e.meetsNoChild
  | _ => false

/-- Whether two runs differ in nothing but the root key, which both accept. The keys are alike in
what a run tells of its root key. -/
structure SameButKey (a : Arguments) (w : World) (root : ExtendedKey)
    (a' : Arguments) (w' : World) (root' : ExtendedKey) : Prop where
  arguments : a' = { a with rootKey := a'.rootKey }
  given : a'.rootKey.isSome = a.rootKey.isSome
  folder : w'.folder = w.folder
  /-- Behind the answers that give the root key both consoles are the same. -/
  accepted : ∃ c, KeyStage a w.console (.ok root) c ∧ KeyStage a' w'.console (.ok root') c
  isPrivate : root'.isPrivate = root.isPrivate
  depth : root'.depth = root.depth
  fingerprint : root'.fingerprint = root.fingerprint

variable {a a' : Arguments} {w w' : World} {root root' : ExtendedKey}

theorem BirthdayStage.congr {c : Console} {r : Except RunError (Option Instant)}
    (h : BirthdayStage a c r) (hgiven : a'.rootKey.isSome = a.rootKey.isSome) :
    BirthdayStage a' c r := by
  have hnone (ha : a.rootKey = none) : a'.rootKey = none := by
    rwa [ha, Option.isSome_none, Option.isSome_eq_false_iff, Option.isNone_iff_eq_none] at hgiven
  cases h with
  | unasked ha =>
    rw [ha, Option.isSome_some, Option.isSome_iff_exists] at hgiven
    obtain ⟨text, htext⟩ := hgiven
    exact .unasked htext
  | noAnswer ha hanswer => exact .noAnswer (hnone ha) hanswer
  | unknown ha hanswer hblank => exact .unknown (hnone ha) hanswer hblank
  | known ha hanswer hblank => exact .known (hnone ha) hanswer hblank

theorem SameButKey.keyEvents_eq (h : SameButKey a w root a' w' root') :
    keyEvents a' root' = keyEvents a root := by
  rw [keyEvents, keyEvents, h.given, h.fingerprint, h.isPrivate]

/-- Scripts below alike roots that end in the same way are reported as finished alike. They have the
same result, unless only one of them meets a key that does not exist. -/
theorem runScript_congr {n : Network} {plan : Plan} (hprivate : root'.isPrivate = root.isPrivate)
    (hdepth : root'.depth = root.depth) {now now' : Instant}
    {r r' : Except ScriptError ScriptSummary}
    (hr : ((⟨root, n, plan⟩ : Job).runScript now {}).1 = r)
    (hr' : ((⟨root', n, plan⟩ : Job).runScript now' {}).1 = r')
    (halike : Ending.Alike (.ofScript r) (.ofScript r')) :
    finishEvents r' = finishEvents r ∧
      ((Ending.ofScript r').meetsNoChild = (Ending.ofScript r).meetsNoChild → r' = r) := by
  have hscript := Job.runScript_scripted ⟨root, n, plan⟩ now
  have hscript' := Job.runScript_scripted ⟨root', n, plan⟩ now'
  rw [hr] at hscript
  rw [hr'] at hscript'
  generalize (Job.runScript ⟨root, n, plan⟩ now {}).2.bytes = bytes at hscript
  generalize (Job.runScript ⟨root', n, plan⟩ now' {}).2.bytes = bytes' at hscript'
  cases hscript with
  | whole =>
    cases hscript' with
    | whole => exact ⟨rfl, fun _ => rfl⟩
    | cut => cases halike
  | cut _ _ he =>
    cases hscript' with
    | whole => cases halike
    | cut _ _ he' =>
      cases halike with
      | key hkey =>
        refine ⟨rfl, fun hchild => ?_⟩
        rw [Job.key?_of_keyLine he, Job.key?_of_keyLine he'] at hkey
        obtain ⟨rfl, rfl⟩ := Prod.mk.inj (Option.some.inj hkey)
        rw [Job.keyLine_error_eq hprivate hdepth he he' hchild]

theorem SameButKey.staged (h : SameButKey a w root a' w' root') (now now' : Instant) :
    (∃ ending events, Staged a now w ending { events } ∧ Staged a' now' w' ending { events }) ∨
    ∃ plan, Planned a w ⟨root, a.network, plan⟩ ∧ Planned a' w' ⟨root', a.network, plan⟩ := by
  obtain ⟨c, hkey, hkey'⟩ := h.accepted
  have hnetwork : a'.network = a.network := by rw [h.arguments]
  have hsettings : a'.settings = a.settings := by rw [h.arguments]
  have hfiles : a'.fileSettings w'.folder = a.fileSettings w.folder := by
    rw [h.folder, h.arguments]
    rfl
  cases hfile : a.fileSettings w.folder with
  | error e =>
    rw [hfile] at hfiles
    exact Or.inl ⟨_, _, .file hfile, .file hfiles⟩
  | ok file =>
  rw [hfile] at hfiles
  obtain ⟨birthday, hbirthday⟩ := Stage.exists_birthdayStage a c
  have hbirthday' := hbirthday.congr h.given
  cases birthday with
  | error e =>
    have hstaged' : Staged a' now' w' _ _ := .birthday hfiles hkey' hbirthday'
    rw [h.keyEvents_eq] at hstaged'
    exact Or.inl ⟨_, _, .birthday hfile hkey hbirthday, hstaged'⟩
  | ok birthday =>
  have hprepared : Prepared a w root _ := .mk hfile hkey hbirthday
  have hprepared' : Prepared a' w' root' _ := .mk hfiles hkey' hbirthday'
  rw [hsettings] at hprepared'
  cases hplan : ((file.overlay { birthday }).overlay a.settings).resolve a.network with
  | error e =>
    have hstaged' : Staged a' now' w' _ _ := .plan hprepared' (hnetwork ▸ hplan)
    rw [h.keyEvents_eq] at hstaged'
    exact Or.inl ⟨_, _, .plan hprepared hplan, hstaged'⟩
  | ok plan =>
    have hplanned' : Planned a' w' _ := .mk hprepared' (hnetwork ▸ hplan)
    rw [hnetwork] at hplanned'
    exact Or.inr ⟨plan, .mk hprepared hplan, hplanned'⟩

theorem privateKeysExposed_mem_iff {job : Job} {r : Except ScriptError ScriptSummary} :
    .privateKeysExposed ∈ keyEvents a job.root ++ (Stage.heightEvents job.plan ++
        Stage.startEvents job.plan) ++ finishEvents r ↔
      job.plan.strategy.exportsPrivateKeys = true := by
  have hkey : .privateKeysExposed ∉ keyEvents a job.root := by
    rw [keyEvents]
    split <;> simp
  have hheight : .privateKeysExposed ∉ Stage.heightEvents job.plan := by
    rw [Stage.heightEvents]
    split <;> simp
  have hfinish : .privateKeysExposed ∉ finishEvents r := by
    cases r <;> simp [finishEvents]
  have hstart : .privateKeysExposed ∈ Stage.startEvents job.plan ↔
      job.plan.strategy.exportsPrivateKeys = true := by
    rw [Stage.startEvents]
    split <;> simp_all
  simp only [List.mem_append, hkey, hheight, hfinish, hstart, false_or, or_false]

/-- Two runs that differ in nothing but the root key, and end in the same way, have the same log.
They have the same report, unless only one of them meets a key that does not exist. Every run that
writes a script logs the warning of private keys exactly if the lines of its format hold the private
keys of their keys. -/
theorem Invocation.outcome_confidential {i : Invocation}
    (h : Arguments.parse i.arguments i.environmentValue? = .ok a) (w : World) :
    (∀ (i' : Invocation) (a' : Arguments) (w' : World) (root root' : ExtendedKey),
      Arguments.parse i'.arguments i'.environmentValue? = .ok a' → i'.filter = i.filter →
      SameButKey a w root a' w' root' →
      Ending.Alike (i.outcome w).ending (i'.outcome w').ending →
      (i'.outcome w').log = (i.outcome w).log ∧
      ((i'.outcome w').ending.meetsNoChild = (i.outcome w).ending.meetsNoChild →
        (i'.outcome w').ending.report = (i.outcome w).ending.report)) ∧
    ∀ job, Planned a w job → i.filter.admits .privateKeysExposed = true →
      ∀ (key : ExtendedKey) (label : KeyLabel) (line : String),
        job.plan.strategy.line (key.represent job.network) label = .ok line →
        (.privateKeysExposed ∈ (i.outcome w).log ↔
          ∃ wif, (key.represent job.network).wif = some wif ∧
            wif.toList ∈ line.toList.splitOn ' ') := by
  constructor
  · intro i' a' w' root root' h' hfilter hsame halike
    rcases hsame.staged i.now i'.now with ⟨ending, events, hstaged, hstaged'⟩ |
      ⟨plan, hjob, hjob'⟩
    · rw [hstaged.outcome_eq h, hstaged'.outcome_eq h', hfilter]
      exact ⟨rfl, fun _ => rfl⟩
    · rw [(Staged.script hjob).outcome_eq h, (Staged.script hjob').outcome_eq h'] at halike ⊢
      obtain ⟨hfinish, hresult⟩ := runScript_congr hsame.isPrivate hsame.depth rfl rfl halike
      dsimp only
      rw [hsame.keyEvents_eq, hfinish, hfilter]
      refine ⟨rfl, fun hchild => ?_⟩
      rw [hresult hchild]
  · intro job hjob hadmits key label line hline
    rw [(Staged.script hjob).outcome_eq h, ← Strategy.exportsPrivateKeys_iff hline]
    dsimp only
    rw [List.mem_filter, privateKeysExposed_mem_iff]
    exact and_iff_left hadmits

/-- Two keys without their secrets, which differ in the chain code, leave the same log and the same
report. The log warns of private keys although no line is reached. -/
theorem Invocation.outcome_confidential_watchOnly :
    let root := ExtendedKey.sampleRoot.neuter
    let root' : ExtendedKey := { root with chainCode := ⟨List.replicate 32 1, rfl⟩ }
    let run (key : ExtendedKey) : Invocation := {
      arguments := []
      environment := [("KEYSWEEP_ROOTKEY", key.text), ("RUST_LOG", "info")]
      now := ⟨0, 0, by decide, by decide, by decide, by decide⟩ }
    let a (key : ExtendedKey) : Arguments := { rootKey := some key.text }
    (∀ key, Arguments.parse (run key).arguments (run key).environmentValue? = .ok (a key)) ∧
      SameButKey (a root) {} root (a root') {} root' ∧
      Ending.Alike ((run root).outcome {}).ending ((run root').outcome {}).ending ∧
      ((run root').outcome {}).log = ((run root).outcome {}).log ∧
      ((run root').outcome {}).ending.report = ((run root).outcome {}).ending.report ∧
      .privateKeysExposed ∈ ((run root).outcome {}).log := by
  intro root root' run a
  have hparse (key : ExtendedKey) :
      Arguments.parse (run key).arguments (run key).environmentValue? = .ok (a key) := rfl
  have hfilter (key : ExtendedKey) : (run key).filter = Log.Filter.ofVariable (some "info") := rfl
  have hwell : root.WellFormed := ExtendedKey.WellFormed.neuter trivial
  have hwell' : root'.WellFormed := hwell
  have hfingerprint (key : ExtendedKey) (code : Bytes 32) :
      ({ key with chainCode := code } : ExtendedKey).fingerprint = key.fingerprint := rfl
  have hsame : SameButKey (a root) {} root (a root') {} root' := {
    arguments := rfl
    given := show true = true from rfl
    folder := rfl
    accepted := ⟨none, keyStage_of_text hwell rfl rfl, keyStage_of_text hwell' rfl rfl⟩
    isPrivate := rfl
    depth := rfl
    fingerprint := hfingerprint root _ }
  have hjob : Planned (a root) {} ⟨root, .bitcoin, Plan.assumed⟩ := planned_assumed hwell rfl
  have hjob' : Planned (a root') {} ⟨root', .bitcoin, Plan.assumed⟩ := planned_assumed hwell' rfl
  have hending (key : ExtendedKey) (hpublic : key.isPrivate = false)
      (hplanned : Planned (a key) {} ⟨key, .bitcoin, Plan.assumed⟩) :
      ((run key).outcome {}).ending = .failed (.script (.derivation .external 0
        (.privateMaterialRequired ⟨84, true, by decide⟩ key.depth))) := by
    rw [(Staged.script hplanned).outcome_eq (hparse key)]
    dsimp only
    rw [(Job.runScript_assumed hpublic _ _).1]
    rfl
  have halike : Ending.Alike ((run root).outcome {}).ending ((run root').outcome {}).ending := by
    rw [hending root rfl hjob, hending root' rfl hjob']
    exact .key rfl
  have hchild : ((run root').outcome {}).ending.meetsNoChild =
      ((run root).outcome {}).ending.meetsNoChild := by
    rw [hending root rfl hjob, hending root' rfl hjob']
  obtain ⟨hconfidential, hwarned⟩ := outcome_confidential (hparse root) {}
  obtain ⟨hlog, hreport⟩ := hconfidential (run root') (a root') {} root root' (hparse root')
    ((hfilter root').trans (hfilter root).symm) hsame halike
  have hline : Strategy.line .directImport (ExtendedKey.sampleRoot.represent .bitcoin)
      ⟨⟨[]⟩, .external, 0⟩ = .ok _ := rfl
  exact ⟨hparse, hsame, halike, hlog, hreport hchild,
    (hwarned _ hjob rfl _ _ _ hline).mpr ((Strategy.exportsPrivateKeys_iff hline).mp rfl)⟩

end CommandLine

end WalletRecovery
