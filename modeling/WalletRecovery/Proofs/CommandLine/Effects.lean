import WalletRecovery.Proofs.CommandLine.Stage

/-! # What a stage does in a world

Stages in a row add up: the second one goes on with the console that the first one leaves, and its
transcript stands behind that of the first one. A stage that fails ends the row. -/

namespace WalletRecovery.CommandLine

variable {α β : Type} {w : World}

theorem Transcript.mk_append (output output' : List UInt8) (events events' : List Log.Event) :
    mk output events ++ mk output' events' = mk (output ++ output') (events ++ events') := rfl

theorem Transcript.append_empty (t : Transcript) : t ++ {} = t := by
  cases t
  change Transcript.mk (_ ++ []) (_ ++ []) = _
  rw [List.append_nil, List.append_nil]

namespace Session

def questions : Session α → World → List Question
  | done _, _ => []
  | log _ next, w => next.questions w
  | write _ next, w => next.questions w
  | readFile name next, w => (next (w.folder.read name)).questions w
  | ask q next, w =>
    q :: (next (w.console.answer q).1).questions { w with console := (w.console.answer q).2 }

theorem questions_bind (s : Session α) (f : α → Session β) (w : World) :
    (s >>= f).questions w =
      s.questions w ++ (f (s.run w).1).questions { w with console := (s.run w).2.1 } := by
  induction s generalizing w with
  | done result => rfl
  | log event next ih => exact ih w
  | write bytes next ih => exact ih w
  | readFile name next ih => exact ih (w.folder.read name) w
  | ask q next ih =>
    have hnext := ih (w.console.answer q).1 { w with console := (w.console.answer q).2 }
    exact congrArg (q :: ·) hnext

theorem run_of_questions_eq_nil {s : Session α} (h : s.questions w = []) (c : Console) :
    s.run { w with console := c } = ((s.run w).1, c, (s.run w).2.2) := by
  induction s generalizing w with
  | done result => rfl
  | log event next ih => rw [run, run, ih h]
  | write bytes next ih => rw [run, run, ih h]
  | readFile name next ih => exact ih _ h
  | ask q next ih => cases h

end Session

namespace Stage

variable {s : Stage α} {f : α → Stage β} {x : α} {c c' : Console} {t t' : Transcript}

/-- Whether a stage ends with a result in a world, and leaves a console and a transcript. -/
def Runs (s : Stage α) (w : World) (r : Except RunError α) (c : Console) (t : Transcript) : Prop :=
  (ExceptT.run s).run w = (r, c, t)

theorem Runs.bind {r : Except RunError β} (h : s.Runs w (.ok x) c t)
    (h' : (f x).Runs { w with console := c } r c' t') : (s >>= f).Runs w r c' (t ++ t') := by
  rw [Runs] at h h' ⊢
  rw [ExceptT.run_bind, Session.run_bind, h]
  dsimp only
  rw [h']

theorem Runs.bind_silent {r : Except RunError β} (h : s.Runs w (.ok x) c {})
    (h' : (f x).Runs { w with console := c } r c' t) : (s >>= f).Runs w r c' t :=
  h.bind h'

theorem Runs.bind_error {e : RunError} (h : s.Runs w (.error e) c t) :
    (s >>= f).Runs w (.error e) c t := by
  have hrun : (ExceptT.run (s >>= f)).run w = (.error e, c, t ++ {}) := by
    rw [Runs] at h
    rw [ExceptT.run_bind, Session.run_bind, h]
    rfl
  rwa [Transcript.append_empty] at hrun

theorem Runs.map {g : α → β} {r : Except RunError α} (h : s.Runs w r c t) :
    (g <$> s).Runs w (r.map g) c t := by
  have hrun : (ExceptT.run (g <$> s)).run w = (r.map g, c, t ++ {}) := by
    rw [Runs] at h
    change (ExceptT.run s >>= _).run w = _
    rw [Session.run_bind, h]
    cases r <;> rfl
  rwa [Transcript.append_empty] at hrun

theorem runs_pure (x : α) (w : World) : (pure x : Stage α).Runs w (.ok x) w.console {} := rfl

theorem runs_take {ε : Type} (cause : ε → RunError) (r : Except ε α) (w : World) :
    (take cause r).Runs w (r.mapError cause) w.console {} := rfl

theorem runs_log (event : Log.Event) (w : World) :
    (log event).Runs w (.ok ()) w.console { events := [event] } := rfl

theorem runs_write (bytes : List UInt8) (w : World) :
    (write bytes).Runs w (.ok ()) w.console { output := bytes } := by
  have hrun : (ExceptT.run (write bytes)).run w =
      (.ok (), w.console, Transcript.mk bytes [] ++ {}) := rfl
  rwa [Transcript.append_empty] at hrun

theorem runs_ask {q : Question} {text : String} (h : w.console.answer q = (.ok text, c)) :
    (ask q).Runs w (.ok text) c {} := by
  have hrun : (ExceptT.run (ask q)).run w =
      ((w.console.answer q).1.mapError (.console q), (w.console.answer q).2, {}) := rfl
  rwa [h] at hrun

theorem runs_ask_error {q : Question} {e : ConsoleError}
    (h : w.console.answer q = (.error e, c)) :
    (ask q).Runs w (.error (.console q e)) c {} := by
  have hrun : (ExceptT.run (ask q)).run w =
      ((w.console.answer q).1.mapError (.console q), (w.console.answer q).2, {}) := rfl
  rwa [h] at hrun

theorem runs_forM_log (events : List Log.Event) (w : World) :
    (events.forM log : Stage Unit).Runs w (.ok ()) w.console { events } := by
  induction events with
  | nil => rfl
  | cons event events ih => exact (runs_log event w).bind (f := fun _ => events.forM log) ih

/-- Whether a stage asks nothing in any world. -/
def Quiet (s : Stage α) : Prop :=
  ∀ w, (ExceptT.run s).questions w = []

theorem Quiet.bind (h : s.Quiet) (h' : ∀ x, (f x).Quiet) : (s >>= f).Quiet := by
  intro w
  rw [ExceptT.run_bind, Session.questions_bind, h w]
  rcases ((ExceptT.run s).run w).1 with e | x
  · rfl
  · exact h' x _

theorem Quiet.map {g : α → β} (h : s.Quiet) : (g <$> s).Quiet := by
  intro w
  change (ExceptT.run s >>= _).questions w = []
  rw [Session.questions_bind, h w]
  cases ((ExceptT.run s).run w).1 <;> rfl

theorem quiet_take {ε : Type} (cause : ε → RunError) (r : Except ε α) : (take cause r).Quiet :=
  fun _ => rfl

theorem quiet_log (event : Log.Event) : (log event).Quiet := fun _ => rfl

theorem quiet_write (bytes : List UInt8) : (write bytes).Quiet := fun _ => rfl

end Stage

end WalletRecovery.CommandLine
