import WalletRecovery.CommandLine.Run

/-! # What a stage gives in a world

A stage has a result in every world and leaves a world to the stage behind it, so the result of
stages in a row is put together from theirs. -/

namespace WalletRecovery.CommandLine.Stage

variable {α β : Type} {w : World}

def result (s : Stage α) (w : World) : Except RunError α :=
  (ExceptT.run s).run w |>.1

def rest (s : Stage α) (w : World) : World :=
  { w with console := ((ExceptT.run s).run w).2.1 }

theorem result_pure (x : α) (w : World) : (pure x : Stage α).result w = .ok x := rfl

theorem result_bind (s : Stage α) (f : α → Stage β) (w : World) :
    (s >>= f).result w = s.result w >>= fun x => (f x).result (s.rest w) := by
  rw [result, ExceptT.run_bind, Session.run_bind, result, rest]
  rcases (ExceptT.run s).run w with ⟨e | x, console, before⟩ <;> rfl

theorem result_bind_of_ok {s : Stage α} {f : α → Stage β} {x : α} (h : s.result w = .ok x) :
    (s >>= f).result w = (f x).result (s.rest w) := by
  rw [result_bind, h]
  rfl

theorem result_take {ε : Type} (cause : ε → RunError) (r : Except ε α) (w : World) :
    (take cause r).result w = r.mapError cause := rfl

theorem result_map_take {ε : Type} (f : α → β) (cause : ε → RunError) (r : Except ε α)
    (w : World) : (f <$> take cause r).result w = (r.mapError cause).map f := by
  cases r <;> rfl

end WalletRecovery.CommandLine.Stage
