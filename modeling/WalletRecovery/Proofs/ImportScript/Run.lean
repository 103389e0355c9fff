import WalletRecovery.Proofs.Key.Derivation
import WalletRecovery.Proofs.ImportScript.Draft
import WalletRecovery.Proofs.Time.Timestamp

/-! # What a script run does

A key line either exists at every index of a job or at none of them, apart from the indices that are
too large to be derived. So a run is complete, or ends before its first key, or ends where the
indices end. -/

namespace WalletRecovery

def ScriptError.key? : ScriptError → Option (Branch × ℕ)
  | derivation branch index _ => some (branch, index)
  | representation branch index _ => some (branch, index)
  | sink _ => none

def Sink.Unlimited (s : Sink) : Prop :=
  s.room = none ∧ s.refusesFlush = false

def Sink.withLines (s : Sink) (ls : List String) : Sink :=
  { s with written := s.written ++ linesBytes ls }

theorem Sink.Unlimited.put_lines {s : Sink} (h : s.Unlimited) (ls : List String) :
    s.put (linesBytes ls) = (.ok (), s.withLines ls) :=
  Sink.put_of_room_eq_none h.1 _

theorem Sink.Unlimited.flush_withLines {s : Sink} (h : s.Unlimited) (ls : List String) :
    (s.withLines ls).flush = .ok () := by
  simp [flush, withLines, h.2]

/-- The lines of a key exist in a given format if the format needs no secret or the key has one. -/
theorem Strategy.exists_line_iff (s : Strategy) (k : ExtendedKey) (n : Network) (l : KeyLabel) :
    (∃ text, s.line (k.represent n) l = .ok text) ↔
      k.isPrivate = true ∨ s = .watchOnlyImport := by
  have hwif : (k.represent n).wif.isSome = k.isPrivate := Option.isSome_map
  rcases hw : (k.represent n).wif with _ | wif <;> rw [hw] at hwif <;> cases s <;>
    simp [Strategy.line, Representation.exportedKey, hw, ← hwif, Except.map]

namespace Job

/-- What a root key and a plan need for the keys of a job: room for two more steps below the
account, and the secret unless neither the account nor the format asks for it. -/
structure Ready (job : Job) : Prop where
  depth : job.root.depth.toNat + job.plan.derivationPath.length + 2 ≤ 255
  material : job.root.isPrivate = true ∨
    (∀ c ∈ job.plan.derivationPath.steps, c.hardened = false) ∧
      job.plan.strategy = .watchOnlyImport

/-- Whether no derivation of a key of the job meets an invalid tweak. -/
def TweaksValid (job : Job) : Prop :=
  ∀ b i p, i < job.window → job.keyPath b i = .ok p → job.root.derive p ≠ .error .invalidTweak

def comments (job : Job) (createdAt : Instant) : List String :=
  [header createdAt, job.plan.strategy.usageHint]

theorem comments_eq (job : Job) (createdAt : Instant) :
    job.comments createdAt =
      ["# Wallet dump created by keysweep on " ++ createdAt.text,
        if job.plan.strategy = .bulkDump then
          "# Save this output to a file and use the importwallet command of bitcoin core."
        else "# Paste the following lines into a command line window."] := by
  rw [comments]
  cases job.plan.strategy <;> rfl

theorem rescanDirective_eq (job : Job) :
    job.rescanDirective =
      "bitcoin-cli rescanblockchain " ++ toString job.plan.rescanFrom.toNat :=
  rfl

variable {job : Job} {b : Branch} {i : ℕ}

theorem keyPath_of_lt (h : i < indexLimit) :
    job.keyPath b i = .ok (job.plan.derivationPath.extend [b.child, ⟨i, false, h⟩]) := by
  rw [keyPath, ChildNumber.ofIndex, dif_pos h]

theorem keyRepresentation_of_le (h : indexLimit ≤ i) :
    job.keyRepresentation b i = .error (.derivation b i (.indexOutOfRange ⟨i⟩)) := by
  rw [keyRepresentation, keyPath, ChildNumber.ofIndex, dif_neg (by omega)]

theorem keyLine_of_le (h : indexLimit ≤ i) :
    job.keyLine b i = .error (.derivation b i (.indexOutOfRange ⟨i⟩)) := by
  rw [keyLine, keyRepresentation_of_le h]

theorem keyRepresentation_of_lt (h : i < indexLimit) :
    job.keyRepresentation b i =
      match job.root.derive (job.plan.derivationPath.extend [b.child, ⟨i, false, h⟩]) with
      | .error e => .error (.derivation b i e)
      | .ok key => .ok (key.represent job.network) := by
  simp only [keyRepresentation, keyPath_of_lt h, ExtendedKey.represent?_eq]
  cases job.root.derive (job.plan.derivationPath.extend [b.child, ⟨i, false, h⟩]) <;> rfl

theorem keyLine_of_lt (h : i < indexLimit) :
    job.keyLine b i =
      match job.root.derive (job.plan.derivationPath.extend [b.child, ⟨i, false, h⟩]) with
      | .error e => .error (.derivation b i e)
      | .ok key => (job.plan.strategy.line (key.represent job.network)
          ⟨job.plan.derivationPath, b, i⟩).mapError (.representation b i) := by
  simp only [keyLine, keyRepresentation_of_lt h]
  cases job.root.derive (job.plan.derivationPath.extend [b.child, ⟨i, false, h⟩]) <;> rfl

theorem keyLine_of_derive_error {e : DerivationError} (h : i < indexLimit)
    (hderive : job.root.derive (job.plan.derivationPath.extend [b.child, ⟨i, false, h⟩]) =
      .error e) : job.keyLine b i = .error (.derivation b i e) := by
  rw [keyLine_of_lt h, hderive]

/-- A report on a missing line names the key of that line. -/
theorem key?_of_keyLine {e : ScriptError} (h : job.keyLine b i = .error e) :
    e.key? = some (b, i) := by
  by_cases hi : i < indexLimit
  · rw [keyLine_of_lt hi] at h
    split at h
    · obtain rfl := Except.error.inj h
      rfl
    · next key _ =>
      rcases hl : job.plan.strategy.line (key.represent job.network)
        ⟨job.plan.derivationPath, b, i⟩ with e' | text
      · rw [hl] at h
        obtain rfl := Except.error.inj h
        rfl
      · rw [hl] at h
        cases h
  · rw [keyLine_of_le (by omega)] at h
    obtain rfl := Except.error.inj h
    rfl

theorem canTake_extend (k : ExtendedKey) (p : DerivationPath) (b : Branch) (h : i < indexLimit) :
    k.CanTake (p.extend [b.child, ⟨i, false, h⟩]).steps ↔ k.CanTake p.steps := by
  have hb : b.child.hardened = false := by cases b <;> rfl
  simp [ExtendedKey.CanTake, or_imp, forall_and, hb]

theorem ready_iff : job.Ready ↔
    (job.root.depth.toNat + (job.plan.derivationPath.length + 2) ≤ 255 ∧
      job.root.CanTake job.plan.derivationPath.steps) ∧
    (job.root.isPrivate = true ∨ job.plan.strategy = .watchOnlyImport) := by
  constructor
  · intro h
    have hdepth := h.depth
    exact ⟨⟨by omega, h.material.imp id And.left⟩, h.material.imp id And.right⟩
  · rintro ⟨⟨hdepth, htake⟩, hformat⟩
    refine ⟨by omega, ?_⟩
    rcases htake with hp | hp
    · exact Or.inl hp
    · exact hformat.imp id (fun hs => ⟨hp, hs⟩)

/-- Where indices are in range, every line exists or none does. -/
theorem exists_keyLine_iff (hi : i < indexLimit)
    (hv : ∀ p, job.keyPath b i = .ok p → job.root.derive p ≠ .error .invalidTweak) :
    (∃ text, job.keyLine b i = .ok text) ↔ job.Ready := by
  have hd := ExtendedKey.exists_deriveSteps_iff (hv _ (keyPath_of_lt hi))
  rw [canTake_extend, ← DerivationPath.length, DerivationPath.length_extend] at hd
  rw [keyLine_of_lt hi, ready_iff]
  cases hk : job.root.derive (job.plan.derivationPath.extend [b.child, ⟨i, false, hi⟩]) with
  | error e =>
    apply iff_of_false
    · rintro ⟨text, htext⟩
      cases htext
    · rintro ⟨hcond, -⟩
      obtain ⟨key, hkey⟩ := hd.mpr hcond
      rw [ExtendedKey.derive, hkey] at hk
      cases hk
  | ok key =>
    have hkey := (ExtendedKey.deriveSteps_descends hk).1.isPrivate
    have hline := job.plan.strategy.exists_line_iff key job.network
      ⟨job.plan.derivationPath, b, i⟩
    rw [hkey] at hline
    simp only [mapError_eq_ok_iff, hline]
    exact (and_iff_right (hd.mp ⟨key, hk⟩)).symm

theorem draftKeys_of_ok {line : ℕ → String} {count index : ℕ}
    (h : ∀ j, index ≤ j → j < index + count → job.keyLine b j = .ok (line j)) :
    job.draftKeys b count index = ⟨(List.range' index count).map line, .ok ()⟩ := by
  induction count generalizing index with
  | zero => rfl
  | succ count ih =>
    have hrest : job.draftKeys b count (index + 1) =
        ⟨(List.range' (index + 1) count).map line, .ok ()⟩ :=
      ih (fun j hj hlt => h j (by omega) (by omega))
    rw [draftKeys, h index (Nat.le_refl _) (by omega)]
    change (Draft.line (line index) >>= fun _ => job.draftKeys b count (index + 1)) = _
    rw [hrest]
    rfl

theorem draftKeys_of_error {line : ℕ → String} {count index n : ℕ} {e : ScriptError}
    (hn : n < count)
    (h : ∀ j, index ≤ j → j < index + n → job.keyLine b j = .ok (line j))
    (he : job.keyLine b (index + n) = .error e) :
    job.draftKeys b count index = ⟨(List.range' index n).map line, .error e⟩ := by
  induction n generalizing index count with
  | zero =>
    obtain ⟨m, rfl⟩ : ∃ m, count = m + 1 := ⟨count - 1, by omega⟩
    rw [Nat.add_zero] at he
    rw [draftKeys, he]
    rfl
  | succ n ih =>
    obtain ⟨m, rfl⟩ : ∃ m, count = m + 1 := ⟨count - 1, by omega⟩
    have he' : job.keyLine b (index + 1 + n) = .error e := by
      rw [← he]
      congr 1
      omega
    have hrest : job.draftKeys b m (index + 1) =
        ⟨(List.range' (index + 1) n).map line, .error e⟩ :=
      ih (by omega) (fun j hj hlt => h j (by omega) (by omega)) he'
    rw [draftKeys, h index (Nat.le_refl _) (by omega)]
    change (Draft.line (line index) >>= fun _ => job.draftKeys b m (index + 1)) = _
    rw [hrest]
    rfl

theorem draft_of_external_error {ls : List String} {e : ScriptError} (createdAt : Instant)
    (h : job.draftKeys .external job.window 0 = ⟨ls, .error e⟩) :
    job.draft createdAt = ⟨job.comments createdAt ++ ls, .error e⟩ := by
  rw [draft, h]
  rfl

theorem draft_of_ok {ls ms : List String} (createdAt : Instant)
    (h : job.draftKeys .external job.window 0 = ⟨ls, .ok ()⟩)
    (h' : job.draftKeys .internal job.window 0 = ⟨ms, .ok ()⟩) :
    job.draft createdAt =
      ⟨job.comments createdAt ++ (ls ++ (ms ++ [job.rescanDirective])), .ok ()⟩ := by
  rw [draft, h, h']
  rfl

/-- On a sink that never fails, a run writes its draft and ends as the draft does. -/
theorem runScript_of_unlimited (job : Job) (createdAt : Instant) {s : Sink} (hs : s.Unlimited) :
    job.runScript createdAt s =
      ((job.draft createdAt).result.map fun _ => job.summary,
        s.withLines (job.draft createdAt).lines) := by
  rw [runScript_eq, Draft.onto_of_ok (hs.put_lines _)]
  rcases (job.draft createdAt).result with e | ⟨⟩
  · rfl
  · simp only [hs.flush_withLines]
    rfl

theorem window_pos (hw : job.plan.recoveryWindow ≠ 0) : 0 < job.window :=
  Nat.pos_of_ne_zero (fun h => hw (UInt32.toNat.inj h))

theorem exists_lines (hv : job.TweaksValid) (hr : job.Ready) :
    ∃ line : Branch → ℕ → String,
      ∀ b i, i < job.window → i < indexLimit → job.keyLine b i = .ok (line b i) := by
  have h : ∀ b i, ∃ text, i < job.window → i < indexLimit → job.keyLine b i = .ok text := by
    intro b i
    by_cases hi : i < job.window ∧ i < indexLimit
    · obtain ⟨text, htext⟩ := (exists_keyLine_iff hi.2 (fun p => hv b i p hi.1)).mpr hr
      exact ⟨text, fun _ _ => htext⟩
    · exact ⟨"", fun hw hl => absurd ⟨hw, hl⟩ hi⟩
  choose line hline using h
  exact ⟨line, hline⟩

theorem draft_of_ready {line : Branch → ℕ → String} (createdAt : Instant)
    (h : ∀ b i, i < job.window → job.keyLine b i = .ok (line b i)) :
    job.draft createdAt =
      ⟨job.comments createdAt ++
        ((List.range job.window).map (line .external) ++
          ((List.range job.window).map (line .internal) ++ [job.rescanDirective])), .ok ()⟩ := by
  rw [List.range_eq_range']
  apply draft_of_ok
  · exact draftKeys_of_ok (fun j _ hj => h .external j (by omega))
  · exact draftKeys_of_ok (fun j _ hj => h .internal j (by omega))

/-- The indices end before the window does. -/
theorem draft_of_indexLimit_lt {line : ℕ → String} (createdAt : Instant)
    (hlt : indexLimit < job.window)
    (h : ∀ i, i < indexLimit → job.keyLine .external i = .ok (line i)) :
    job.draft createdAt =
      ⟨job.comments createdAt ++ (List.range indexLimit).map line,
        .error (.derivation .external indexLimit (.indexOutOfRange ⟨indexLimit⟩))⟩ := by
  rw [List.range_eq_range']
  apply draft_of_external_error
  apply draftKeys_of_error hlt (fun j _ hj => h j (by omega))
  rw [Nat.zero_add]
  exact keyLine_of_le (Nat.le_refl _)

theorem draft_of_first_error {e : ScriptError} (createdAt : Instant) (hw : 0 < job.window)
    (he : job.keyLine .external 0 = .error e) :
    job.draft createdAt = ⟨job.comments createdAt, .error e⟩ := by
  have h : job.draftKeys .external job.window 0 = ⟨(List.range' 0 0).map (fun _ => ""), .error e⟩ :=
    draftKeys_of_error hw (by omega) he
  rw [draft_of_external_error createdAt h]
  simp

theorem runScript_of_ready (hv : job.TweaksValid) (hr : job.Ready)
    (hle : job.window ≤ indexLimit) :
    ∃ line : Branch → ℕ → String,
      (∀ b i, i < job.window → job.keyLine b i = .ok (line b i)) ∧
      ∀ createdAt s, s.Unlimited → job.runScript createdAt s =
        (.ok job.summary,
          s.withLines (job.comments createdAt ++
            ((List.range job.window).map (line .external) ++
              ((List.range job.window).map (line .internal) ++ [job.rescanDirective])))) := by
  obtain ⟨line, hline⟩ := exists_lines hv hr
  have hline' : ∀ b i, i < job.window → job.keyLine b i = .ok (line b i) :=
    fun b i hi => hline b i hi (by omega)
  refine ⟨line, hline', ?_⟩
  intro createdAt s hs
  rw [runScript_of_unlimited job createdAt hs, draft_of_ready createdAt hline']
  rfl

theorem runScript_of_indexLimit_lt (hv : job.TweaksValid) (hr : job.Ready)
    (hlt : indexLimit < job.window) :
    ∃ line : ℕ → String,
      (∀ i, i < indexLimit → job.keyLine .external i = .ok (line i)) ∧
      ∀ createdAt s, s.Unlimited → job.runScript createdAt s =
        (.error (.derivation .external indexLimit (.indexOutOfRange ⟨indexLimit⟩)),
          s.withLines (job.comments createdAt ++ (List.range indexLimit).map line)) := by
  obtain ⟨line, hline⟩ := exists_lines hv hr
  have hline' : ∀ i, i < indexLimit → job.keyLine .external i = .ok (line .external i) :=
    fun i hi => hline .external i (by omega) hi
  refine ⟨line .external, hline', ?_⟩
  intro createdAt s hs
  rw [runScript_of_unlimited job createdAt hs, draft_of_indexLimit_lt createdAt hlt hline']
  rfl

theorem runScript_of_not_ready (hv : job.TweaksValid) (hw : 0 < job.window)
    (hr : ¬ job.Ready) :
    ∃ e : ScriptError, e.key? = some (.external, 0) ∧
      ∀ createdAt s, s.Unlimited →
        job.runScript createdAt s = (.error e, s.withLines (job.comments createdAt)) := by
  have hnone := mt (exists_keyLine_iff (by decide) (fun p => hv .external 0 p hw)).mp hr
  cases he : job.keyLine .external 0 with
  | ok text => exact absurd ⟨text, he⟩ hnone
  | error e =>
    refine ⟨e, key?_of_keyLine he, ?_⟩
    intro createdAt s hs
    rw [runScript_of_unlimited job createdAt hs, draft_of_first_error createdAt hw he]
    rfl

theorem runScript_isOk_iff (hv : job.TweaksValid) (hw : 0 < job.window) (createdAt : Instant)
    {s : Sink} (hs : s.Unlimited) :
    (∃ r, (job.runScript createdAt s).1 = .ok r) ↔ job.Ready ∧ job.window ≤ indexLimit := by
  constructor
  · rintro ⟨r, hr⟩
    by_cases hready : job.Ready
    · refine ⟨hready, ?_⟩
      by_contra hle
      obtain ⟨line, -, hrun⟩ := runScript_of_indexLimit_lt hv hready (by omega)
      rw [hrun createdAt s hs] at hr
      cases hr
    · obtain ⟨e, -, hrun⟩ := runScript_of_not_ready hv hw hready
      rw [hrun createdAt s hs] at hr
      cases hr
  · rintro ⟨hready, hle⟩
    obtain ⟨line, -, hrun⟩ := runScript_of_ready hv hready hle
    exact ⟨_, congrArg Prod.fst (hrun createdAt s hs)⟩

/-- A script run, completely. A run that succeeds has written the comments, the lines of the
external keys, those of the internal keys and the directive, of which only the header knows the
time, which is read back from there. If the job is not ready, the report names the first key and
only the comments were written. If only the window is too large, all lines that an external key can
have were written too. -/
theorem runScript_characterization (job : Job) (hw : job.plan.recoveryWindow ≠ 0)
    (hv : job.TweaksValid) :
    let comments (createdAt : Instant) : List String :=
      ["# Wallet dump created by keysweep on " ++ createdAt.text,
        if job.plan.strategy = .bulkDump then
          "# Save this output to a file and use the importwallet command of bitcoin core."
        else "# Paste the following lines into a command line window."]
    let directive : String :=
      "bitcoin-cli rescanblockchain " ++ toString job.plan.rescanFrom.toNat
    (∀ createdAt : Instant,
      Timestamp.parseLenient createdAt.text.toList = .ok createdAt) ∧
    (∀ createdAt s, s.Unlimited →
      ((∃ r, (job.runScript createdAt s).1 = .ok r) ↔ job.Ready ∧ job.window ≤ indexLimit)) ∧
    (job.Ready → job.window ≤ indexLimit →
      ∃ line : Branch → ℕ → String,
        (∀ b i, i < job.window → job.keyLine b i = .ok (line b i)) ∧
        ∀ createdAt s, s.Unlimited → job.runScript createdAt s =
          (.ok ⟨2 * job.window, job.plan.rescanFrom⟩,
            s.withLines (comments createdAt ++
              ((List.range job.window).map (line .external) ++
                ((List.range job.window).map (line .internal) ++ [directive]))))) ∧
    (job.Ready → indexLimit < job.window →
      ∃ line : ℕ → String,
        (∀ i, i < indexLimit → job.keyLine .external i = .ok (line i)) ∧
        ∀ createdAt s, s.Unlimited → job.runScript createdAt s =
          (.error (.derivation .external indexLimit (.indexOutOfRange ⟨indexLimit⟩)),
            s.withLines (comments createdAt ++ (List.range indexLimit).map line))) ∧
    (¬ job.Ready →
      ∃ e : ScriptError, e.key? = some (.external, 0) ∧
        ∀ createdAt s, s.Unlimited →
          job.runScript createdAt s = (.error e, s.withLines (comments createdAt))) := by
  intro comments directive
  have hpos := window_pos hw
  have hcomments : job.comments = comments := funext job.comments_eq
  have hdirective : job.rescanDirective = directive := job.rescanDirective_eq
  rw [← hcomments, ← hdirective]
  refine ⟨Instant.parseLenient_text, ?_, ?_, ?_, ?_⟩
  · intro createdAt s hs
    exact runScript_isOk_iff hv hpos createdAt hs
  · intro hr hle
    exact runScript_of_ready hv hr hle
  · intro hr hlt
    exact runScript_of_indexLimit_lt hv hr hlt
  · intro hr
    exact runScript_of_not_ready hv hpos hr

def sample : Job where
  root := ExtendedKey.sampleRoot
  network := .bitcoin
  plan := {
    strategy := .directImport
    derivationPath := .master
    recoveryWindow := 1
    rescanFrom := 500000
    rescanSource := .assumed }

theorem sample_tweaksValid : sample.TweaksValid := by
  intro b i p hi hp h
  obtain rfl : i = 0 := Nat.lt_one_iff.mp hi
  rw [keyPath_of_lt (by decide)] at hp
  obtain rfl := Except.ok.inj hp
  have hok : (ExtendedKey.sampleRoot.deriveSteps [b.child, .zero]).isOk = true := by
    cases b with
    | external => exact ExtendedKey.sampleRoot_derives.1
    | internal => exact ExtendedKey.sampleRoot_derives.2
  change ExtendedKey.sampleRoot.deriveSteps [b.child, .zero] = _ at h
  rw [h] at hok
  cases hok

/-- The second of January 2024, five seconds past 03:04. -/
def sampleTime : Instant where
  seconds := 1704164645
  nanos := 0
  first_le := by decide
  le_last := by decide
  nanos_lt := by decide
  leap := by decide

theorem runScript_sample :
    sample.plan.recoveryWindow ≠ 0 ∧ sample.TweaksValid ∧
      ∃ line : Branch → ℕ → String, (∀ b, sample.keyLine b 0 = .ok (line b 0)) ∧
        sample.runScript sampleTime {} =
          (.ok ⟨2, 500000⟩, Sink.withLines {}
            ["# Wallet dump created by keysweep on 2024-01-02 03:04:05 UTC",
              "# Paste the following lines into a command line window.",
              line .external 0, line .internal 0, "bitcoin-cli rescanblockchain 500000"]) := by
  have hw : sample.plan.recoveryWindow ≠ 0 := by decide
  have htime : sampleTime.text = "2024-01-02 03:04:05 UTC" := by decide +kernel
  obtain ⟨-, -, hcomplete, -, -⟩ := runScript_characterization sample hw sample_tweaksValid
  obtain ⟨line, hline, hrun⟩ := hcomplete ⟨by decide, Or.inl rfl⟩ (by decide)
  refine ⟨hw, sample_tweaksValid, line, fun b => hline b 0 (by decide), ?_⟩
  rw [hrun sampleTime {} ⟨rfl, rfl⟩]
  dsimp only
  rw [htime]
  rfl

end Job

end WalletRecovery
