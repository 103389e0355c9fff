import WalletRecovery.ImportScript.Job
import Mathlib.Data.List.Basic

/-! # Scripts without a sink

A draft is what a computation would write if the sink took everything, and how it would end. A
computation that follows its draft depends on the sink only through the question whether the sink
takes the bytes of the draft. -/

namespace WalletRecovery

def linesBytes (ls : List String) : List UInt8 :=
  ls.flatMap fun l => utf8 l ++ [10]

theorem linesBytes_append (ls ms : List String) :
    linesBytes (ls ++ ms) = linesBytes ls ++ linesBytes ms :=
  List.flatMap_append

theorem append_list_append (a : Array UInt8) (bs cs : List UInt8) :
    a ++ (bs ++ cs) = a ++ bs ++ cs := by
  apply Array.ext'
  simp

namespace Sink

theorem put_nil (s : Sink) : s.put [] = (.ok (), s) := by
  rcases s with ⟨_ | room, refuses, written⟩ <;> simp [put]

theorem put_of_room_eq_none {s : Sink} (h : s.room = none) (bs : List UInt8) :
    s.put bs = (.ok (), { s with written := s.written ++ bs }) := by
  simp only [put, h]

/-- What is put in two parts arrives as if put in one, if the first part fits. -/
theorem put_append_of_ok {s t : Sink} {as : List UInt8} (h : s.put as = (.ok (), t))
    (bs : List UInt8) : s.put (as ++ bs) = t.put bs := by
  rcases s with ⟨_ | room, refuses, written⟩
  · obtain rfl := (Prod.mk.inj h).2
    simp [put, append_list_append]
  · by_cases hle : as.length ≤ room
    · simp only [put, if_pos hle] at h
      obtain rfl := (Prod.mk.inj h).2
      have hiff : as.length + bs.length ≤ room ↔ bs.length ≤ room - as.length := by omega
      simp [put, List.take_append, List.take_of_length_le hle, hiff, Nat.sub_sub,
        append_list_append]
    · simp [put, if_neg hle] at h

/-- Once a part does not fit, what comes behind it leaves no trace. -/
theorem put_append_of_error {s t : Sink} {as : List UInt8} {e : SinkError}
    (h : s.put as = (.error e, t)) (bs : List UInt8) : s.put (as ++ bs) = (.error e, t) := by
  rcases s with ⟨_ | room, refuses, written⟩
  · simp [put] at h
  · by_cases hle : as.length ≤ room
    · simp [put, if_pos hle] at h
    · rw [← h]
      have hle' : ¬ as.length + bs.length ≤ room := by omega
      simp [put, hle, hle', List.take_append_of_le_length (Nat.le_of_not_le hle),
        Nat.sub_eq_zero_of_le (Nat.le_of_not_le hle),
        Nat.sub_eq_zero_of_le (Nat.le_of_not_le hle')]

theorem bytes_of_put_ok {s t : Sink} {bs : List UInt8} (h : s.put bs = (.ok (), t)) :
    t.bytes = s.bytes ++ bs := by
  rcases s with ⟨_ | room, refuses, written⟩
  · obtain rfl := (Prod.mk.inj h).2
    simp [bytes]
  · by_cases hle : bs.length ≤ room
    · simp only [put, if_pos hle] at h
      obtain rfl := (Prod.mk.inj h).2
      simp [bytes, List.take_of_length_le hle]
    · simp [put, if_neg hle] at h

end Sink

/-- The lines that a computation writes if the sink takes them all, and its result. -/
structure Draft (α : Type) where
  lines : List String
  result : Except ScriptError α

namespace Draft

variable {α β : Type}

def andThen (d : Draft α) (f : α → Draft β) : Draft β :=
  match d.result with
  | .error e => ⟨d.lines, .error e⟩
  | .ok a => ⟨d.lines ++ (f a).lines, (f a).result⟩

instance : Monad Draft where
  pure a := ⟨[], .ok a⟩
  bind := andThen

def line (text : String) : Draft Unit :=
  ⟨[text], .ok ()⟩

def ofResult (r : Except ScriptError α) : Draft α :=
  ⟨[], r⟩

/-- What comes of a draft on a sink: its result, unless the sink does not take its lines. -/
def onto (d : Draft α) (s : Sink) : Except ScriptError α × Sink :=
  match s.put (linesBytes d.lines) with
  | (.ok (), t) => (d.result, t)
  | (.error e, t) => (.error (.sink e), t)

theorem onto_of_ok {d : Draft α} {s t : Sink} (h : s.put (linesBytes d.lines) = (.ok (), t)) :
    d.onto s = (d.result, t) := by
  simp only [onto, h]

theorem onto_of_error {d : Draft α} {s t : Sink} {e : SinkError}
    (h : s.put (linesBytes d.lines) = (.error e, t)) : d.onto s = (.error (.sink e), t) := by
  simp only [onto, h]

theorem onto_ofResult (r : Except ScriptError α) (s : Sink) : (ofResult r).onto s = (r, s) :=
  onto_of_ok s.put_nil

theorem bind_of_ok {d : Draft α} {a : α} (h : d.result = .ok a) (f : α → Draft β) :
    d >>= f = ⟨d.lines ++ (f a).lines, (f a).result⟩ := by
  change d.andThen f = _
  simp only [andThen, h]

theorem bind_of_error {d : Draft α} {e : ScriptError} (h : d.result = .error e)
    (f : α → Draft β) : d >>= f = ⟨d.lines, .error e⟩ := by
  change d.andThen f = _
  simp only [andThen, h]

theorem result_bind_eq_ok {d : Draft α} {f : α → Draft β} {y : β}
    (h : (d >>= f).result = .ok y) : ∃ x, d.result = .ok x ∧ (f x).result = .ok y := by
  cases hd : d.result with
  | error e =>
    rw [bind_of_error hd] at h
    cases h
  | ok x =>
    rw [bind_of_ok hd] at h
    exact ⟨x, rfl, h⟩

end Draft

namespace Writing

variable {α β : Type}

/-- Whether a computation does to every sink what a draft tells. -/
def Follows (w : Writing α) (d : Draft α) : Prop :=
  ∀ s : Sink, w.run s = d.onto s

theorem run_andThen (w : Writing α) (f : α → Writing β) (s : Sink) :
    (w >>= f).run s = match w.run s with
      | (.ok a, t) => (f a).run t
      | (.error e, t) => (.error e, t) := by
  change ExceptT.bindCont f (w.run s).1 (w.run s).2 = _
  rcases w.run s with ⟨_ | a, t⟩ <;> rfl

theorem follows_pure (a : α) : Follows (pure a) (pure a) :=
  fun s => (Draft.onto_ofResult (.ok a) s).symm

theorem follows_ofResult (r : Except ScriptError α) : Follows (liftM r) (.ofResult r) :=
  fun s => (Draft.onto_ofResult r s).symm

theorem follows_line (text : String) : Follows (line text) (.line text) := by
  intro s
  have hbytes : linesBytes (Draft.line text).lines = utf8 text ++ [10] := List.append_nil _
  change ((s.put (utf8 text ++ [10])).1.mapError ScriptError.sink,
    (s.put (utf8 text ++ [10])).2) = _
  rw [Draft.onto, hbytes]
  rcases s.put (utf8 text ++ [10]) with ⟨_ | _, t⟩ <;> rfl

theorem Follows.bind {w : Writing α} {d : Draft α} {f : α → Writing β} {g : α → Draft β}
    (hw : w.Follows d) (hf : ∀ a, (f a).Follows (g a)) : (w >>= f).Follows (d >>= g) := by
  intro s
  rw [run_andThen, hw s]
  rcases h : s.put (linesBytes d.lines) with ⟨e | _, t⟩
  · -- the sink fails within the first part, so whatever the second one would add is lost
    have hlines : ∃ ls, (d >>= g).lines = d.lines ++ ls := by
      cases hr : d.result with
      | error e' => exact ⟨[], by rw [Draft.bind_of_error hr, List.append_nil]⟩
      | ok a => exact ⟨(g a).lines, by rw [Draft.bind_of_ok hr]⟩
    obtain ⟨ls, hls⟩ := hlines
    rw [Draft.onto_of_error h, Draft.onto_of_error (e := e) (t := t)]
    rw [hls, linesBytes_append, Sink.put_append_of_error h]
  · rw [Draft.onto_of_ok h]
    cases hr : d.result with
    | error e =>
      rw [Draft.bind_of_error hr]
      exact (Draft.onto_of_ok (d := ⟨d.lines, .error e⟩) h).symm
    | ok a =>
      rw [Draft.bind_of_ok hr]
      simp only [Draft.onto, linesBytes_append, Sink.put_append_of_ok h]
      exact hf a t

end Writing

namespace Job

def draftKeys (job : Job) (branch : Branch) : ℕ → ℕ → Draft Unit
  | 0, _ => pure ()
  | count + 1, index => do
    let line ← .ofResult (job.keyLine branch index)
    .line line
    job.draftKeys branch count (index + 1)

def draft (job : Job) (createdAt : Instant) : Draft Unit := do
  .line (header createdAt)
  .line job.plan.strategy.usageHint
  job.draftKeys .external job.window 0
  job.draftKeys .internal job.window 0
  .line job.rescanDirective

def summary (job : Job) : ScriptSummary :=
  ⟨2 * job.window, job.plan.rescanFrom⟩

theorem writeKeys_follows (job : Job) (branch : Branch) (count index : ℕ) :
    (job.writeKeys branch count index).Follows (job.draftKeys branch count index) := by
  induction count generalizing index with
  | zero => exact Writing.follows_pure ()
  | succ count ih =>
    apply Writing.Follows.bind (Writing.follows_ofResult _)
    intro line
    apply Writing.Follows.bind (Writing.follows_line line)
    intro _
    exact ih (index + 1)

def writeLines (job : Job) (createdAt : Instant) : Writing Unit := do
  Writing.line (header createdAt)
  Writing.line job.plan.strategy.usageHint
  job.writeKeys .external job.window 0
  job.writeKeys .internal job.window 0
  Writing.line job.rescanDirective

theorem writeScript_eq (job : Job) (createdAt : Instant) :
    job.writeScript createdAt = do
      job.writeLines createdAt
      Writing.flush
      return job.summary := by
  simp only [writeScript, writeLines, bind_assoc]
  rfl

theorem writeLines_follows (job : Job) (createdAt : Instant) :
    (job.writeLines createdAt).Follows (job.draft createdAt) := by
  apply Writing.Follows.bind (Writing.follows_line _)
  intro _
  apply Writing.Follows.bind (Writing.follows_line _)
  intro _
  apply Writing.Follows.bind (job.writeKeys_follows .external job.window 0)
  intro _
  apply Writing.Follows.bind (job.writeKeys_follows .internal job.window 0)
  intro _
  exact Writing.follows_line _

/-- A run does to the sink what the draft tells, and flushes it if the draft has succeeded. -/
theorem runScript_eq (job : Job) (createdAt : Instant) (s : Sink) :
    job.runScript createdAt s = match (job.draft createdAt).onto s with
      | (.error e, t) => (.error e, t)
      | (.ok (), t) => ((t.flush.mapError .sink).map fun _ => job.summary, t) := by
  rw [runScript, writeScript_eq, Writing.run_andThen, job.writeLines_follows createdAt s]
  rcases (job.draft createdAt).onto s with ⟨e | ⟨⟩, t⟩
  · rfl
  · change (Writing.flush >>= fun _ => pure job.summary).run t = _
    have hflush : Writing.flush.run t = (t.flush.mapError .sink, t) := rfl
    rw [Writing.run_andThen, hflush]
    cases h : t.flush <;> simp only [h] <;> rfl

end Job

end WalletRecovery
