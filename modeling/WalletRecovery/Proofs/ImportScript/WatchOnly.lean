import WalletRecovery.Proofs.ImportScript.KeyLine
import WalletRecovery.Proofs.Key.Neuter

/-! # Watch-only scripts

A watch-only line tells the public half of its key, and normal steps below an account give the same
public halves with its secret and without it. So the script of an account is that of every root
above it, but for the path in the labels, and it tells nothing of the root that the public half of
the account does not. -/

namespace WalletRecovery

open ExtendedKey (deriveSteps_append deriveSteps_neuter)

/-- A line of a watch-only script before the path of the account is filled in. -/
inductive OpenLine where
  | text (s : String)
  | key (branch : Branch) (index : ℕ) (publicKey : Bytes 33)

def OpenLine.below (account : String) : OpenLine → String
  | text s => s
  | key b i publicKey => "bitcoin-cli" ++ " importpubkey " ++ publicKey.hex ++ " \"" ++
      labelBelow account b i ++ "\" false"

namespace Draft

variable {ι : Type} {account : ι → String} {d d' : ι → Draft Unit}

/-- Whether the drafts of a family are the same but for the account of each. -/
def SameBut (account : ι → String) (d : ι → Draft Unit) : Prop :=
  ∃ lines result, ∀ j, d j = ⟨List.map (OpenLine.below (account j)) lines, result⟩

theorem sameBut_line (l : OpenLine) : SameBut account fun j => line (l.below (account j)) :=
  ⟨[l], .ok (), fun _ => rfl⟩

theorem SameBut.bind (h : SameBut account d) (h' : SameBut account d') :
    SameBut account fun j => d j >>= fun _ => d' j := by
  obtain ⟨lines, result, hd⟩ := h
  obtain ⟨lines', result', hd'⟩ := h'
  cases result with
  | error e =>
    refine ⟨lines, .error e, ?_⟩
    intro j
    change (d j >>= fun _ => d' j) = _
    rw [hd j]
    rfl
  | ok =>
    refine ⟨lines ++ lines', result', ?_⟩
    intro j
    change (d j >>= fun _ => d' j) = _
    rw [hd j, hd' j, List.map_append]
    rfl

end Draft

namespace Job

variable {job : Job}

def publicKeyAt (job : Job) (b : Branch) (i : ℕ) : Except ScriptError (Bytes 33) :=
  (job.keyRepresentation b i).map Representation.publicKey

theorem keyLine_of_watchOnly (hs : job.plan.strategy = .watchOnlyImport) (b : Branch) (i : ℕ) :
    job.keyLine b i = (job.publicKeyAt b i).map fun k =>
      (OpenLine.key b i k).below job.plan.derivationPath.text := by
  rw [keyLine, publicKeyAt, hs]
  cases job.keyRepresentation b i with
  | error e => rfl
  | ok r => rfl

def withoutSecret (job : Job) : Job :=
  { job with root := job.root.neuter }

def below (job : Job) (root : ExtendedKey) (p : DerivationPath) : Job :=
  { job with
    root := root
    plan := { job.plan with derivationPath := p.extend job.plan.derivationPath.steps } }

/-- What two watch-only jobs have in common whose scripts differ in their labels only. -/
structure SharesKeys (job job' : Job) : Prop where
  strategy : job'.plan.strategy = .watchOnlyImport
  window : job'.plan.recoveryWindow = job.plan.recoveryWindow
  rescanFrom : job'.plan.rescanFrom = job.plan.rescanFrom
  publicKeyAt : ∀ b i, job'.publicKeyAt b i = job.publicKeyAt b i

/-- Below an account, a root has the children of the account, and their public halves need no
secret. -/
theorem deriveSteps_below {root account : ExtendedKey} {p : DerivationPath}
    (h : root.derive p = .ok account) {cs : List ChildNumber}
    (hcs : ∀ c ∈ cs, c.hardened = false) :
    (root.deriveSteps (p.steps ++ cs)).map ExtendedKey.neuter = account.neuter.deriveSteps cs := by
  have happend : root.deriveSteps (p.steps ++ cs) = account.deriveSteps cs := by
    rw [deriveSteps_append, show root.deriveSteps p.steps = .ok account from h]
    rfl
  rw [happend, deriveSteps_neuter account hcs]

theorem publicKeyAt_below {root account : ExtendedKey} {p : DerivationPath}
    (hp : ∀ c ∈ job.plan.derivationPath.steps, c.hardened = false)
    (h : root.derive p = .ok account) (ha : account.neuter = job.root.neuter) (b : Branch) (i : ℕ) :
    (job.below root p).publicKeyAt b i = job.withoutSecret.publicKeyAt b i := by
  rcases Nat.lt_or_ge i indexLimit with hi | hi
  · have hb : b.child.hardened = false := by cases b <;> rfl
    have hsteps : ∀ c ∈ job.plan.derivationPath.steps ++ [b.child, ⟨i, false, hi⟩],
        c.hardened = false := by
      intro c hc
      rcases List.mem_append.mp hc with hc | hc
      · exact hp c hc
      · rcases List.mem_cons.mp hc with rfl | hc
        · exact hb
        · obtain rfl := List.mem_singleton.mp hc
          rfl
    have hroot : (job.below root p).root.derive ((job.below root p).plan.derivationPath.extend
        [b.child, ⟨i, false, hi⟩]) = root.deriveSteps (p.steps ++
          (job.plan.derivationPath.steps ++ [b.child, ⟨i, false, hi⟩])) := by
      rw [← List.append_assoc]
      rfl
    have haccount : job.withoutSecret.root.derive
        (job.withoutSecret.plan.derivationPath.extend [b.child, ⟨i, false, hi⟩]) =
          (root.deriveSteps (p.steps ++ (job.plan.derivationPath.steps ++
            [b.child, ⟨i, false, hi⟩]))).map ExtendedKey.neuter := by
      rw [deriveSteps_below h hsteps, ha]
      rfl
    rw [publicKeyAt, publicKeyAt, keyRepresentation_of_lt hi, keyRepresentation_of_lt hi, hroot,
      haccount]
    cases root.deriveSteps (p.steps ++
      (job.plan.derivationPath.steps ++ [b.child, ⟨i, false, hi⟩])) with
    | error e => rfl
    | ok key => rfl
  · rw [publicKeyAt, publicKeyAt, keyRepresentation_of_le hi, keyRepresentation_of_le hi]

theorem sharesKeys_below {root account : ExtendedKey} {p : DerivationPath}
    (hs : job.plan.strategy = .watchOnlyImport)
    (hp : ∀ c ∈ job.plan.derivationPath.steps, c.hardened = false)
    (h : root.derive p = .ok account) (ha : account.neuter = job.root.neuter) :
    SharesKeys job.withoutSecret (job.below root p) where
  strategy := hs
  window := rfl
  rescanFrom := rfl
  publicKeyAt := publicKeyAt_below hp h ha

def accountOf (job : Job) (j : {job' : Job // SharesKeys job job'}) : String :=
  j.val.plan.derivationPath.text

/-- The keys of a branch are drafted alike in all jobs that share them: the drafts stop at the same
key, and have the same public keys before it. -/
theorem draftKeys_sameBut (job : Job) (b : Branch) (count index : ℕ) :
    Draft.SameBut job.accountOf fun j => j.val.draftKeys b count index := by
  induction count generalizing index with
  | zero => exact ⟨[], .ok (), fun _ => rfl⟩
  | succ count ih =>
    cases hkey : job.publicKeyAt b index with
    | error e =>
      refine ⟨[], .error e, ?_⟩
      intro j
      change j.val.draftKeys b (count + 1) index = _
      rw [draftKeys, keyLine_of_watchOnly j.property.strategy, j.property.publicKeyAt, hkey]
      rfl
    | ok key =>
      have hdraft : ∀ j : {job' : Job // SharesKeys job job'},
          j.val.draftKeys b (count + 1) index =
            Draft.line ((OpenLine.key b index key).below (job.accountOf j)) >>= fun _ =>
              j.val.draftKeys b count (index + 1) := by
        intro j
        rw [draftKeys, keyLine_of_watchOnly j.property.strategy, j.property.publicKeyAt, hkey]
        rfl
      rw [funext hdraft]
      exact (Draft.sameBut_line _).bind (ih (index + 1))

theorem draft_sameBut (job : Job) (createdAt : Instant) :
    Draft.SameBut job.accountOf fun j => j.val.draft createdAt := by
  have hdraft : ∀ j : {job' : Job // SharesKeys job job'}, j.val.draft createdAt = (do
      Draft.line ((OpenLine.text (header createdAt)).below (job.accountOf j))
      Draft.line
        ((OpenLine.text Strategy.watchOnlyImport.usageHint).below (job.accountOf j))
      j.val.draftKeys .external job.window 0
      j.val.draftKeys .internal job.window 0
      Draft.line ((OpenLine.text job.rescanDirective).below (job.accountOf j))) := by
    intro j
    have hwindow : j.val.window = job.window := congrArg UInt32.toNat j.property.window
    have hdirective : j.val.rescanDirective = job.rescanDirective := by
      rw [rescanDirective, rescanDirective, j.property.rescanFrom]
    rw [draft, j.property.strategy, hwindow, hdirective]
    rfl
  rw [funext hdraft]
  exact (Draft.sameBut_line _).bind ((Draft.sameBut_line _).bind
    ((job.draftKeys_sameBut .external job.window 0).bind
      ((job.draftKeys_sameBut .internal job.window 0).bind (Draft.sameBut_line _))))

theorem exists_runScript_of_sharesKeys (job : Job) (createdAt : Instant) :
    ∃ result lines, ∀ job', SharesKeys job job' → ∀ s : Sink, s.Unlimited →
      job'.runScript createdAt s =
        (result, s.withLines (List.map (OpenLine.below job'.plan.derivationPath.text) lines)) := by
  obtain ⟨lines, result, hdraft⟩ := job.draft_sameBut createdAt
  refine ⟨result.map fun _ => job.summary, lines, ?_⟩
  intro job' h s hs
  have hsummary : job'.summary = job.summary := by
    rw [summary, summary, window, window, h.window, h.rescanFrom]
  have hjob : job'.draft createdAt =
      ⟨List.map (OpenLine.below job'.plan.derivationPath.text) lines, result⟩ := hdraft ⟨job', h⟩
  rw [runScript_of_unlimited job' createdAt hs, hjob, hsummary]

/-- An account gives the same watch-only script without its secret as every root above it does,
whatever the root: the result is the same, and so are the lines, in which only the path of the
account is written out from where the root stands. So nothing of the root is told but what the
public half of the account tells. -/
theorem runScript_withoutSecret (job : Job) (hs : job.plan.strategy = .watchOnlyImport)
    (hp : ∀ c ∈ job.plan.derivationPath.steps, c.hardened = false) (createdAt : Instant) :
    ∃ result lines,
      (∀ s : Sink, s.Unlimited → job.withoutSecret.runScript createdAt s =
        (result, s.withLines (List.map (OpenLine.below job.plan.derivationPath.text) lines))) ∧
      ∀ root p account, ExtendedKey.derive root p = .ok account →
        account.neuter = job.root.neuter →
        ∀ s : Sink, s.Unlimited → (job.below root p).runScript createdAt s =
          (result, s.withLines (List.map
            (OpenLine.below (p.extend job.plan.derivationPath.steps).text) lines)) := by
  obtain ⟨result, lines, hrun⟩ := exists_runScript_of_sharesKeys job.withoutSecret createdAt
  have hself : SharesKeys job.withoutSecret job.withoutSecret := ⟨hs, rfl, rfl, fun _ _ => rfl⟩
  refine ⟨result, lines, hrun _ hself, ?_⟩
  intro root p account h ha
  exact hrun _ (sharesKeys_below hs hp h ha)

/-- Below the child `84'` of the sample root, with its secret and without it, the keys of `m/7` are
imported under labels that start with the path from the root and from the child. -/
theorem runScript_withoutSecret_sample :
    let p : DerivationPath := ⟨[⟨84, true, by decide⟩]⟩
    let q : DerivationPath := ⟨[⟨7, false, by decide⟩]⟩
    ∃ account, ExtendedKey.sampleRoot.derive p = .ok account ∧
      let job : Job := ⟨account, .bitcoin, .watchOnlyImport, q, 20, 500000, .assumed⟩
      job.plan.strategy = .watchOnlyImport ∧
      (∀ c ∈ job.plan.derivationPath.steps, c.hardened = false) ∧
      ∀ createdAt, ∃ result lines,
        job.withoutSecret.runScript createdAt {} =
          (result, Sink.withLines {} (List.map (OpenLine.below "m/7") lines)) ∧
        (job.below ExtendedKey.sampleRoot p).runScript createdAt {} =
          (result, Sink.withLines {} (List.map (OpenLine.below "m/84'/7") lines)) := by
  intro p q
  have hok : (ExtendedKey.sampleRoot.derive p).isOk = true :=
    ExtendedKey.sampleRoot_derives_hardened
  cases h : ExtendedKey.sampleRoot.derive p with
  | error e =>
    rw [h] at hok
    cases hok
  | ok account =>
    refine ⟨account, rfl, ?_⟩
    intro job
    have hs : job.plan.strategy = .watchOnlyImport := rfl
    have hp : ∀ c ∈ job.plan.derivationPath.steps, c.hardened = false :=
      List.forall_mem_singleton.mpr rfl
    refine ⟨hs, hp, ?_⟩
    intro createdAt
    obtain ⟨result, lines, hpublic, hroot⟩ := runScript_withoutSecret job hs hp createdAt
    exact ⟨result, lines, hpublic {} ⟨rfl, rfl⟩, hroot _ p account h rfl {} ⟨rfl, rfl⟩⟩

end Job

end WalletRecovery
