import WalletRecovery.Proofs.ImportScript.Run

/-! # Runs on a sink that fails

A sink with limited room holds a prefix of what an unlimited one would hold. Which failure is
reported depends on the bytes alone: a full sink comes before anything else, a key without a line
before a refused flush. -/

namespace WalletRecovery

namespace Sink

/-- A sink that takes some bytes and then fails. -/
def limited (room : ℕ) (refusesFlush : Bool) : Sink :=
  { room := some room, refusesFlush := refusesFlush }

theorem unlimited_empty : Unlimited {} := ⟨rfl, rfl⟩

theorem put_of_lt {s : Sink} {room : ℕ} {bs : List UInt8} (hs : s.room = some room)
    (h : room < bs.length) :
    s.put bs = (.error .full, { s with room := some 0, written := s.written ++ bs.take room }) := by
  simp only [put, hs, if_neg (Nat.not_le_of_lt h),
    Nat.sub_eq_zero_of_le (Nat.le_of_lt h)]

theorem put_of_le {s : Sink} {room : ℕ} {bs : List UInt8} (hs : s.room = some room)
    (h : bs.length ≤ room) :
    s.put bs =
      (.ok (), { s with room := some (room - bs.length), written := s.written ++ bs }) := by
  simp only [put, hs, if_pos h, List.take_of_length_le h]

end Sink

namespace Draft

variable {α β : Type}

def FailsOnKeys (d : Draft α) : Prop :=
  ∀ e, d.result = .error e → e.key? ≠ none

theorem failsOnKeys_line (text : String) : (line text).FailsOnKeys := by
  intro e h
  cases h

theorem FailsOnKeys.bind {d : Draft α} {f : α → Draft β} (hd : d.FailsOnKeys)
    (hf : ∀ a, (f a).FailsOnKeys) : (d >>= f).FailsOnKeys := by
  intro e h
  cases hr : d.result with
  | error e' =>
    rw [bind_of_error hr] at h
    obtain rfl := Except.error.inj h
    exact hd e' hr
  | ok a =>
    rw [bind_of_ok hr] at h
    exact hf a e h

end Draft

namespace Job

variable (job : Job) (createdAt : Instant)

theorem draftKeys_failsOnKeys (b : Branch) (count index : ℕ) :
    (job.draftKeys b count index).FailsOnKeys := by
  induction count generalizing index with
  | zero =>
    intro e h
    cases h
  | succ count ih =>
    apply Draft.FailsOnKeys.bind
    · intro e h
      rw [key?_of_keyLine h]
      exact Option.some_ne_none _
    intro line
    apply Draft.FailsOnKeys.bind (Draft.failsOnKeys_line line)
    intro _
    exact ih (index + 1)

theorem draft_failsOnKeys : (job.draft createdAt).FailsOnKeys := by
  apply Draft.FailsOnKeys.bind (Draft.failsOnKeys_line _)
  intro _
  apply Draft.FailsOnKeys.bind (Draft.failsOnKeys_line _)
  intro _
  apply Draft.FailsOnKeys.bind (job.draftKeys_failsOnKeys .external job.window 0)
  intro _
  apply Draft.FailsOnKeys.bind (job.draftKeys_failsOnKeys .internal job.window 0)
  intro _
  exact Draft.failsOnKeys_line _

theorem runScript_empty :
    job.runScript createdAt {} = ((job.draft createdAt).result.map fun _ => job.summary,
      Sink.withLines {} (job.draft createdAt).lines) :=
  job.runScript_of_unlimited createdAt Sink.unlimited_empty

theorem bytes_runScript_empty :
    (job.runScript createdAt {}).2.bytes = linesBytes (job.draft createdAt).lines := by
  rw [runScript_empty]
  simp [Sink.withLines, Sink.bytes]

/-- The draft does not fit: the sink is filled, and nothing else is reported. -/
theorem runScript_of_lt {s : Sink} {room : ℕ} (hs : s.room = some room)
    (h : room < (linesBytes (job.draft createdAt).lines).length) :
    job.runScript createdAt s = (.error (.sink .full), { s with
      room := some 0
      written := s.written ++ (linesBytes (job.draft createdAt).lines).take room }) := by
  rw [runScript_eq, Draft.onto_of_error (Sink.put_of_lt hs h)]

/-- The draft fits: it is written as a whole, and only its success is followed by a flush. -/
theorem runScript_of_le {s : Sink} {room : ℕ} (hs : s.room = some room)
    (h : (linesBytes (job.draft createdAt).lines).length ≤ room) :
    job.runScript createdAt s =
      ((job.draft createdAt).result.bind fun _ =>
          if s.refusesFlush then .error (.sink .flushRefused) else .ok job.summary,
        { s with
          room := some (room - (linesBytes (job.draft createdAt).lines).length)
          written := s.written ++ linesBytes (job.draft createdAt).lines }) := by
  rw [runScript_eq, Draft.onto_of_ok (Sink.put_of_le hs h)]
  rcases (job.draft createdAt).result with e | ⟨⟩
  · rfl
  · cases s.refusesFlush <;> simp [Sink.flush, Except.mapError, Except.map, Except.bind]

theorem runScript_empty_ne_sink (e : SinkError) :
    (job.runScript createdAt {}).1 ≠ .error (.sink e) := by
  intro h
  rw [runScript_empty] at h
  cases hr : (job.draft createdAt).result with
  | error e' =>
    rw [hr] at h
    obtain rfl : e' = .sink e := Except.error.inj h
    exact job.draft_failsOnKeys createdAt _ hr rfl
  | ok =>
    rw [hr] at h
    cases h

/-- Writing to a sink that fails, against the same run on a sink that never does. The limited sink
holds the first bytes of the whole text. It being full is reported whatever the whole run ends
with; otherwise a failing key is reported unchanged, and a success only if the flush succeeds too.
Unlimited runs never report the sink. -/
theorem runScript_limited (room : ℕ) (refusesFlush : Bool) :
    (job.runScript createdAt (Sink.limited room refusesFlush)).2.bytes =
      (job.runScript createdAt {}).2.bytes.take room ∧
    (job.runScript createdAt (Sink.limited room refusesFlush)).1 =
      (if room < (job.runScript createdAt {}).2.bytes.length then .error (.sink .full)
      else (job.runScript createdAt {}).1.bind fun summary =>
        if refusesFlush then .error (.sink .flushRefused) else .ok summary) ∧
    ∀ e, (job.runScript createdAt {}).1 ≠ .error (.sink e) := by
  have hbytes := job.bytes_runScript_empty createdAt
  have hresult := congrArg Prod.fst (job.runScript_empty createdAt)
  rw [← and_assoc]
  refine ⟨?_, job.runScript_empty_ne_sink createdAt⟩
  rw [hbytes, hresult]
  -- what the whole run ends with matters only if its whole text fits
  rcases Nat.lt_or_ge room (linesBytes (job.draft createdAt).lines).length with h | h
  · have hcut := job.runScript_of_lt createdAt (s := Sink.limited room refusesFlush) rfl h
    rw [if_pos h, hcut]
    exact ⟨by simp [Sink.bytes, Sink.limited], rfl⟩
  · have hcut := job.runScript_of_le createdAt (s := Sink.limited room refusesFlush) rfl h
    rw [if_neg (Nat.not_lt_of_le h), hcut, List.take_of_length_le h]
    refine ⟨by simp [Sink.bytes, Sink.limited], ?_⟩
    cases (job.draft createdAt).result <;> rfl

end Job

end WalletRecovery
