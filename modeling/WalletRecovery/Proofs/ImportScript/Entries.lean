import WalletRecovery.Proofs.ImportScript.Interruption
import Mathlib.Data.List.Forall2

/-! # Scripts entry by entry

The lines of a script stand in the order of its entries. A run on a sink that never fails is whole,
or a key without a line cuts it off, and then the lines of the entries in front of this key are all
that stands behind the comments. -/

namespace WalletRecovery

theorem Draft.bind_bind {α β γ : Type} (d : Draft α) (f : α → Draft β) (g : β → Draft γ) :
    d >>= f >>= g = d >>= fun a => f a >>= g := by
  cases hd : d.result with
  | error e => rw [bind_of_error hd, bind_of_error hd, bind_of_error rfl]
  | ok a =>
    rw [bind_of_ok hd, bind_of_ok hd]
    cases hf : (f a).result with
    | error e => rw [bind_of_error rfl, bind_of_error hf]
    | ok b => rw [bind_of_ok rfl, bind_of_ok hf, List.append_assoc]

namespace Job

def allEntries (job : Job) : List (Branch × ℕ) :=
  job.entries 0 (2 * job.window)

def IsLine (job : Job) (key : Branch × ℕ) (line : String) : Prop :=
  job.keyLine key.1 key.2 = .ok line

/-- What the draft of some keys can be. -/
inductive Drafted (job : Job) : List (Branch × ℕ) → Draft Unit → Prop where
  | whole {keys : List (Branch × ℕ)} {lines : List String} :
      List.Forall₂ job.IsLine keys lines → Drafted job keys ⟨lines, .ok ()⟩
  | cut {before after : List (Branch × ℕ)} {b : Branch} {i : ℕ} {lines : List String}
      {e : ScriptError} : List.Forall₂ job.IsLine before lines → job.keyLine b i = .error e →
      Drafted job (before ++ (b, i) :: after) ⟨lines, .error e⟩

variable {job : Job}

theorem Drafted.append {keys keys' : List (Branch × ℕ)} {d d' : Draft Unit}
    (h : job.Drafted keys d) (h' : job.Drafted keys' d') :
    job.Drafted (keys ++ keys') (d >>= fun _ => d') := by
  cases h with
  | whole hlines =>
    rw [Draft.bind_of_ok rfl]
    cases h' with
    | whole hlines' => exact .whole (List.rel_append hlines hlines')
    | cut hlines' he =>
      rw [← List.append_assoc]
      exact .cut (List.rel_append hlines hlines') he
  | cut hlines he =>
    rw [Draft.bind_of_error rfl, List.append_assoc, List.cons_append]
    exact .cut hlines he

theorem drafted_line (job : Job) (b : Branch) (i : ℕ) :
    job.Drafted [(b, i)] (Draft.ofResult (job.keyLine b i) >>= Draft.line) := by
  cases h : job.keyLine b i with
  | error e =>
    rw [← List.nil_append [(b, i)]]
    exact .cut .nil h
  | ok text => exact .whole (.cons h .nil)

theorem draftKeys_drafted (job : Job) (b : Branch) (count index : ℕ) :
    job.Drafted ((List.range' index count).map (b, ·)) (job.draftKeys b count index) := by
  induction count generalizing index with
  | zero => exact .whole .nil
  | succ count ih =>
    have hrest := (job.drafted_line b index).append (ih (index + 1))
    cases h : job.keyLine b index <;> rw [h] at hrest <;> rw [draftKeys, h] <;> exact hrest

theorem allEntries_eq (job : Job) :
    job.allEntries = (List.range' 0 job.window).map (Branch.external, ·) ++
      (List.range' 0 job.window).map (Branch.internal, ·) := by
  have hcount : min (2 * job.window) (2 * job.window - 0) = job.window + job.window := by omega
  have hexternal : ∀ i ∈ List.range job.window, job.entryAt? (0 + i) = some (.external, i) := by
    intro i hi
    rw [Nat.zero_add, entryAt?, if_pos (List.mem_range.mp hi)]
  have hinternal : ∀ i ∈ List.range job.window,
      job.entryAt? (0 + (job.window + i)) = some (.internal, i) := by
    intro i hi
    have hlt := List.mem_range.mp hi
    rw [entryAt?, if_neg (by omega), if_pos (by omega)]
    congr 2
    omega
  rw [allEntries, entries, hcount, List.range_add, List.filterMap_append, List.filterMap_map,
    ← List.range_eq_range', List.filterMap_congr hexternal]
  change _ ++ (List.range job.window).filterMap
    (fun i => job.entryAt? (0 + (job.window + i))) = _
  rw [List.filterMap_congr hinternal]
  simp only [List.filterMap_eq_map']

/-- What a run does to a sink that never fails: how it ends, and the bytes that it writes. -/
inductive Scripted (job : Job) (createdAt : Instant) :
    Except ScriptError ScriptSummary → List UInt8 → Prop where
  | whole {lines : List String} : List.Forall₂ job.IsLine job.allEntries lines →
      Scripted job createdAt (.ok job.summary)
        (linesBytes (job.comments createdAt ++ lines ++ [job.rescanDirective]))
  | cut {before after : List (Branch × ℕ)} {b : Branch} {i : ℕ} {lines : List String}
      {e : ScriptError} : job.allEntries = before ++ (b, i) :: after →
      List.Forall₂ job.IsLine before lines → job.keyLine b i = .error e →
      Scripted job createdAt (.error e) (linesBytes (job.comments createdAt ++ lines))

theorem exists_draft_eq (job : Job) (createdAt : Instant) :
    ∃ d, job.Drafted job.allEntries d ∧ job.draft createdAt =
      (⟨job.comments createdAt, .ok ()⟩ : Draft Unit) >>= fun _ =>
        d >>= fun _ => Draft.line job.rescanDirective := by
  have hkeys := (job.draftKeys_drafted .external job.window 0).append
    (job.draftKeys_drafted .internal job.window 0)
  rw [← allEntries_eq] at hkeys
  refine ⟨_, hkeys, ?_⟩
  have hcomments : (⟨job.comments createdAt, .ok ()⟩ : Draft Unit) =
      Draft.line (header createdAt) >>= fun _ => Draft.line job.plan.strategy.usageHint := by
    rw [comments, Draft.bind_of_ok rfl]
    rfl
  rw [draft, hcomments, Draft.bind_bind, Draft.bind_bind]

/-- A run on an empty sink that never fails is whole or cut off by a key. -/
theorem runScript_scripted (job : Job) (createdAt : Instant) :
    job.Scripted createdAt (job.runScript createdAt {}).1 (job.runScript createdAt {}).2.bytes := by
  obtain ⟨d, hd, hdraft⟩ := job.exists_draft_eq createdAt
  rw [bytes_runScript_empty, runScript_empty, hdraft]
  generalize hkeys : job.allEntries = keys at hd
  cases hd with
  | whole hlines =>
    rw [← hkeys] at hlines
    have hwhole : job.Scripted createdAt _ _ := .whole hlines
    rwa [List.append_assoc] at hwhole
  | cut hlines he => exact .cut hkeys hlines he

end Job

end WalletRecovery
