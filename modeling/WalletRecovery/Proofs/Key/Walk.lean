import WalletRecovery.Key.Root
import WalletRecovery.Key.Walk
import WalletRecovery.Proofs.Curve.Multiple
import WalletRecovery.Proofs.Key.Codec
import WalletRecovery.Proofs.Key.Derivation

/-! # Keys that a walk can reach

Every operation keeps the points on the curve and away from infinity, which is all that the text of
a key needs to be read back. So reading a key from its text never changes a walk, wherever it
happens. -/

namespace WalletRecovery

open Curve

namespace Curve

theorem Point.OnCurve.add {p q : Point} (hp : p.OnCurve) (hq : q.OnCurve) : (p + q).OnCurve := by
  obtain ⟨g, rfl⟩ := Point.onCurve_iff_exists.mp hp
  obtain ⟨h, rfl⟩ := Point.onCurve_iff_exists.mp hq
  exact Point.onCurve_iff_exists.mpr ⟨g + h, Point.ofGroup_add g h⟩

/-- The point of a secret is a point of the plane, because the secret is no multiple of the
order. -/
theorem SecretKey.compressible_publicPoint (key : SecretKey) : key.publicPoint.Compressible := by
  have hlt : key.value < 2 ^ 256 := key.value_lt.trans order_lt
  constructor
  · obtain ⟨g, hg⟩ := exists_generator
    exact Point.onCurve_iff_exists.mpr ⟨_, (SecretKey.publicPointOf_eq hg hlt).symm⟩
  · intro h
    have hdvd := (SecretKey.publicPointOf_eq_infinity hlt).mp h
    exact Nat.not_dvd_of_pos_of_lt key.value_pos key.value_lt hdvd

end Curve

theorem KeyMaterial.compressible_publicPoint {m : KeyMaterial} (h : m.Valid) :
    m.publicPoint.Compressible := by
  cases m with
  | secret key => exact key.compressible_publicPoint
  | point p => exact h

theorem KeyMaterial.valid_of_add? {m m' : KeyMaterial} {t : SecretKey} (hm : m.Valid)
    (h : m.add? t = some m') : m'.Valid := by
  cases m with
  | secret key =>
    obtain ⟨key', -, rfl⟩ := Option.map_eq_some_iff.mp h
    trivial
  | point p =>
    have hsum : (t.publicPoint + p).OnCurve := t.compressible_publicPoint.1.add hm.1
    simp only [add?] at h
    split at h
    · cases h
    · next hne =>
      obtain rfl := Option.some.inj h
      exact ⟨hsum, hne⟩

/-- Whether an operation is any other than to read a key from its text. -/
def KeyOperation.moves (op : KeyOperation) : Bool :=
  op ≠ .reread

namespace ExtendedKey

variable {k : ExtendedKey}

/-- What can be relied on of a key, wherever it comes from. -/
structure Sound (k : ExtendedKey) : Prop where
  secret : ∀ key, k.material = .secret key → 1 ≤ key.value ∧ key.value < order
  point : ∀ p, k.material = .point p → p.OnCurve ∧ p ≠ .infinity
  depth : k.depth.toNat ≤ 255
  index : k.child.index < 2 ^ 31

theorem WellFormed.sound (h : k.WellFormed) : k.Sound where
  secret := by
    intro key _
    exact ⟨key.value_pos, key.value_lt⟩
  point := by
    intro p hp
    rwa [WellFormed, hp] at h
  depth := by
    have hlt := k.depth.toNat_lt
    omega
  index := k.child.index_lt

/-- How a walk can start. -/
inductive IsRoot : ExtendedKey → Prop where
  | parsed {s : String} {k : ExtendedKey} : parse s = .ok k → IsRoot k
  | seeded {seed : List UInt8} {n : Network} {k : ExtendedKey} :
      ofSeed seed n = .ok k → IsRoot k
  | remembered {phrase passphrase : String} {n : Network} {k : ExtendedKey} :
      ofMnemonic phrase passphrase n = .ok k → IsRoot k

theorem wellFormed_of_seedHash {kind : NetworkKind} {code : Bytes 64}
    (h : ofSeedHash? kind code = some k) : k.WellFormed := by
  obtain ⟨key, -, rfl⟩ := Option.map_eq_some_iff.mp h
  trivial

theorem ofSeed?_of_ofSeed {seed : List UInt8} {n : Network} (h : ofSeed seed n = .ok k) :
    ofSeed? n.kind seed = some k := by
  rw [ofSeed] at h
  cases hs : ofSeed? n.kind seed with
  | none =>
    rw [hs] at h
    cases h
  | some d =>
    rw [hs] at h
    exact congrArg some (Except.ok.inj h)

theorem wellFormed_of_seed {seed : List UInt8} {n : Network} (h : ofSeed seed n = .ok k) :
    k.WellFormed := by
  have hs := ofSeed?_of_ofSeed h
  rw [ofSeed?] at hs
  exact wellFormed_of_seedHash hs

theorem IsRoot.wellFormed (h : k.IsRoot) : k.WellFormed := by
  cases h with
  | parsed hs => exact (text_of_parse hs).1
  | seeded hs => exact wellFormed_of_seed hs
  | remembered hm =>
    rw [ofMnemonic] at hm
    obtain ⟨m, -, hs⟩ := ok_of_bind_eq_ok hm
    exact wellFormed_of_seed hs

theorem WellFormed.neuter (h : k.WellFormed) : k.neuter.WellFormed :=
  KeyMaterial.compressible_publicPoint h

theorem WellFormed.step {d : ExtendedKey} {c : ChildNumber} (h : k.WellFormed)
    (hs : k.step c = .ok d) : d.WellFormed := by
  have ho := step_outcome k c
  rw [hs] at ho
  cases ho with
  | taken data m _ _ _ hm =>
    obtain ⟨t, -, ht⟩ := Option.bind_eq_some_iff.mp hm
    exact KeyMaterial.valid_of_add? h ht

theorem WellFormed.deriveSteps {d : ExtendedKey} {cs : List ChildNumber} (h : k.WellFormed)
    (hd : k.deriveSteps cs = .ok d) : d.WellFormed := by
  induction cs generalizing k with
  | nil =>
    obtain rfl := Except.ok.inj hd
    exact h
  | cons c cs ih =>
    rw [deriveSteps_cons] at hd
    obtain ⟨next, hs, hrest⟩ := ok_of_bind_eq_ok hd
    exact ih (h.step hs) hrest

theorem WellFormed.parse_text (h : k.WellFormed) : parse k.text = .ok k := by
  have hblank : Text.AllBlank [] := List.forall_mem_nil _
  have hread := ExtendedKey.parse_text h hblank hblank
  rwa [String.ofList_nil, String.empty_append, String.append_empty] at hread

theorem visit_of_ok {op : KeyOperation} {d : ExtendedKey} (h : k.outcome op = .ok d) :
    k.visit op = ⟨op, none, d⟩ := by
  simp only [visit, h]

theorem visit_of_error {op : KeyOperation} {e : KeyOperationError} (h : k.outcome op = .error e) :
    k.visit op = ⟨op, some e, k⟩ := by
  simp only [visit, h]

theorem visit_reread (h : k.WellFormed) : k.visit .reread = ⟨.reread, none, k⟩ := by
  apply visit_of_ok
  rw [outcome, h.parse_text]
  rfl

theorem operation_visit (k : ExtendedKey) (op : KeyOperation) : (k.visit op).operation = op := by
  rw [visit]
  cases k.outcome op <;> rfl

inductive Succeeds (k : ExtendedKey) : KeyOperation → ExtendedKey → Prop where
  | step {c : ChildNumber} {d : ExtendedKey} : k.step c = .ok d → Succeeds k (.step c) d
  | derive {p : DerivationPath} {d : ExtendedKey} : k.deriveSteps p.steps = .ok d →
      Succeeds k (.derive p) d
  | neuter : Succeeds k .neuter k.neuter
  | reread : Succeeds k .reread k

theorem succeeds_of_outcome {op : KeyOperation} {d : ExtendedKey} (hk : k.WellFormed)
    (h : k.outcome op = .ok d) : k.Succeeds op d := by
  cases op with
  | step c =>
    rw [outcome] at h
    exact .step (mapError_eq_ok_iff.mp h)
  | derive p =>
    rw [outcome] at h
    exact .derive (mapError_eq_ok_iff.mp h)
  | neuter =>
    obtain rfl := Except.ok.inj h
    exact .neuter
  | reread =>
    rw [outcome, hk.parse_text] at h
    obtain rfl := Except.ok.inj h
    exact .reread

theorem key_visit (hk : k.WellFormed) (op : KeyOperation) :
    (k.visit op).key = k ∨ k.Succeeds op (k.visit op).key := by
  cases h : k.outcome op with
  | error e =>
    rw [visit_of_error h]
    exact Or.inl rfl
  | ok d =>
    rw [visit_of_ok h]
    exact Or.inr (succeeds_of_outcome hk h)

theorem WellFormed.visit (h : k.WellFormed) (op : KeyOperation) :
    (k.visit op).key.WellFormed := by
  rcases key_visit h op with hsame | hs
  · rwa [hsame]
  · generalize (k.visit op).key = d at hs
    cases hs with
    | step hs => exact h.step hs
    | derive hs => exact h.deriveSteps hs
    | neuter => exact h.neuter
    | reread => exact h

theorem isPrivate_visit (h : k.WellFormed) (op : KeyOperation) (hp : k.isPrivate = false) :
    (k.visit op).key.isPrivate = false := by
  rcases key_visit h op with hsame | hs
  · rwa [hsame]
  · generalize (k.visit op).key = d at hs
    cases hs with
    | step hs => rw [(step_descends hs).1.isPrivate, hp]
    | derive hs => rw [(deriveSteps_descends hs).1.isPrivate, hp]
    | neuter => exact isPrivate_neuter k
    | reread => exact hp

theorem WellFormed.walk (h : k.WellFormed) (ops : List KeyOperation) :
    ∀ v ∈ k.walk ops, v.key.WellFormed := by
  induction ops generalizing k with
  | nil => exact List.forall_mem_nil _
  | cons op ops ih =>
    have hv := h.visit op
    exact List.forall_mem_cons.mpr ⟨hv, ih hv⟩

theorem WellFormed.walkEnd (h : k.WellFormed) (ops : List KeyOperation) :
    (k.walkEnd ops).WellFormed := by
  induction ops generalizing k with
  | nil => exact h
  | cons op ops ih => exact ih (h.visit op)

theorem isPrivate_walk (h : k.WellFormed) (hp : k.isPrivate = false) (ops : List KeyOperation) :
    ∀ v ∈ k.walk ops, v.key.isPrivate = false := by
  induction ops generalizing k with
  | nil => exact List.forall_mem_nil _
  | cons op ops ih =>
    have hv := isPrivate_visit h op hp
    exact List.forall_mem_cons.mpr ⟨hv, ih (h.visit op) hv⟩

theorem length_walk (k : ExtendedKey) (ops : List KeyOperation) :
    (k.walk ops).length = ops.length := by
  induction ops generalizing k with
  | nil => rfl
  | cons op ops ih => rw [walk, List.length_cons, List.length_cons, ih]

theorem walk_append (k : ExtendedKey) (ops ops' : List KeyOperation) :
    k.walk (ops ++ ops') = k.walk ops ++ (k.walkEnd ops).walk ops' := by
  induction ops generalizing k with
  | nil => rfl
  | cons op ops ih =>
    rw [List.cons_append, walk, walk, ih]
    rfl

theorem failure_walk (h : k.WellFormed) (ops : List KeyOperation) :
    ∀ v ∈ k.walk ops, v.operation = .reread → v.failure = none := by
  induction ops generalizing k with
  | nil => exact List.forall_mem_nil _
  | cons op ops ih =>
    refine List.forall_mem_cons.mpr ⟨?_, ih (h.visit op)⟩
    intro hop
    obtain rfl : op = .reread := (operation_visit k op).symm.trans hop
    rw [visit_reread h]

/-- Leaving out everything that is read from its text leaves out these visits and changes no
other. -/
theorem walk_filter (h : k.WellFormed) (ops : List KeyOperation) :
    (k.walk ops).filter (·.operation.moves) = k.walk (ops.filter KeyOperation.moves) ∧
      k.walkEnd ops = k.walkEnd (ops.filter KeyOperation.moves) := by
  induction ops generalizing k with
  | nil => exact ⟨rfl, rfl⟩
  | cons op ops ih =>
    by_cases hop : op = .reread
    · -- the key stays, so the rest of the walk is the same without this visit
      subst op
      have hvisit := visit_reread h
      have hskip : KeyOperation.reread.moves = false := rfl
      rw [walk, walkEnd, hvisit, List.filter_cons_of_neg (by simp [hskip]),
        List.filter_cons_of_neg (by simp [hskip])]
      exact ih h
    · have hmove : op.moves = true := decide_eq_true hop
      have hrest := ih (h.visit op)
      rw [walk, walkEnd, List.filter_cons_of_pos (by rwa [operation_visit]),
        List.filter_cons_of_pos hmove, walk, walkEnd, hrest.1]
      exact ⟨rfl, hrest.2⟩

/-- Every key that a walk reaches is sound. Reading a key from its text succeeds wherever it is
done, and walks that differ in this only have the same other visits, failures included, and the same
end. Once the secret was dropped, no later key has one. -/
theorem walk_of_isRoot (hk : k.IsRoot) (ops : List KeyOperation) :
    (k.Sound ∧ ∀ v ∈ k.walk ops, v.key.Sound) ∧
    (∀ v ∈ k.walk ops, v.operation = .reread → v.failure = none) ∧
    (∀ ops' : List KeyOperation, ops'.filter KeyOperation.moves = ops.filter KeyOperation.moves →
      (k.walk ops').filter (·.operation.moves) = (k.walk ops).filter (·.operation.moves) ∧
      k.walkEnd ops' = k.walkEnd ops) ∧
    ∀ before after, ops = before ++ .neuter :: after →
      ∀ v ∈ (k.walk ops).drop before.length, v.key.isPrivate = false := by
  have h := hk.wellFormed
  refine ⟨⟨h.sound, ?_⟩, ?_, ?_, ?_⟩
  · intro v hv
    exact (h.walk ops v hv).sound
  · exact failure_walk h ops
  · intro ops' hops
    have hfilter := walk_filter h ops
    have hfilter' := walk_filter h ops'
    rw [hops] at hfilter'
    exact ⟨hfilter'.1.trans hfilter.1.symm, hfilter'.2.trans hfilter.2.symm⟩
  · rintro before after rfl
    rw [walk_append, List.drop_left' (length_walk k before)]
    have hend := h.walkEnd before
    have hneuter : ((k.walkEnd before).visit .neuter).key.isPrivate = false :=
      isPrivate_neuter _
    exact List.forall_mem_cons.mpr ⟨hneuter, isPrivate_walk (hend.visit .neuter) hneuter after⟩

/-- A walk that drops the secret before a hardened step, with and without reading keys from their
texts on the way. -/
theorem walk_of_sampleRoot :
    let hardened : ChildNumber := ⟨84, true, by decide⟩
    let ops : List KeyOperation := [.step .zero, .neuter, .step hardened, .derive ⟨[.zero]⟩]
    let rereads : List KeyOperation :=
      [.reread, .step .zero, .reread, .neuter, .reread, .reread, .step hardened, .derive ⟨[.zero]⟩]
    sampleRoot.IsRoot ∧
    (sampleRoot.Sound ∧ ∀ v ∈ sampleRoot.walk rereads, v.key.Sound) ∧
    (∀ v ∈ sampleRoot.walk rereads, v.operation = .reread → v.failure = none) ∧
    (ops.filter KeyOperation.moves = rereads.filter KeyOperation.moves ∧
      (sampleRoot.walk ops).filter (·.operation.moves) =
        (sampleRoot.walk rereads).filter (·.operation.moves) ∧
      sampleRoot.walkEnd ops = sampleRoot.walkEnd rereads) ∧
    ∀ v ∈ (sampleRoot.walk rereads).drop 3, v.key.isPrivate = false := by
  intro hardened ops rereads
  have hwell : sampleRoot.WellFormed := trivial
  have hroot : sampleRoot.IsRoot := .parsed hwell.parse_text
  have hsame : ops.filter KeyOperation.moves = rereads.filter KeyOperation.moves := by decide
  have hwalk := walk_of_isRoot hroot rereads
  refine ⟨hroot, hwalk.1, hwalk.2.1, ⟨hsame, hwalk.2.2.1 ops hsame⟩, ?_⟩
  exact hwalk.2.2.2 [.reread, .step .zero, .reread]
    [.reread, .reread, .step hardened, .derive ⟨[.zero]⟩] rfl

end ExtendedKey

end WalletRecovery
