import WalletRecovery.Proofs.Numeral

/-! # Readers

A reader takes a value from the front of a text and leaves the rest to the next reader, whatever it
does where it fails. A run of digits ends where something else begins. -/

namespace WalletRecovery.Text

variable {m : Type → Type} [Monad m] [LawfulMonad m] {α β : Type} {cs ds rest : List Char}

/-- Whether a reader takes a value from the front of a text and leaves the rest. -/
def Takes (r : StateT (List Char) m α) (cs : List Char) (x : α) (rest : List Char) : Prop :=
  r cs = pure (x, rest)

theorem Takes.bind {r : StateT (List Char) m α} {f : α → StateT (List Char) m β} {x : α} {y : β}
    (h : Takes r cs x ds) (h' : Takes (f x) ds y rest) : Takes (r >>= f) cs y rest := by
  change (r cs >>= fun p => f p.1 p.2) = _
  rw [Takes] at h
  rw [h, pure_bind]
  exact h'

omit [Monad m] [LawfulMonad m] in
/-- Where a reader succeeds that is made of two, both of them have. -/
theorem exists_takes_of_bind {ε : Type} {r : StateT (List Char) (Except ε) α}
    {f : α → StateT (List Char) (Except ε) β} {y : β} (h : Takes (r >>= f) cs y rest) :
    ∃ x mid, Takes r cs x mid ∧ Takes (f x) mid y rest := by
  change (r cs >>= fun p => f p.1 p.2) = _ at h
  rcases hr : r cs with e | ⟨x, mid⟩
  · rw [hr] at h
    cases h
  · rw [hr] at h
    exact ⟨x, mid, hr, h⟩

omit [Monad m] [LawfulMonad m] in
theorem Takes.unique {ε : Type} {r : StateT (List Char) (Except ε) α} {x y : α}
    (h : Takes r cs x rest) (h' : Takes r cs y ds) : x = y ∧ rest = ds :=
  Prod.mk.inj (Except.ok.inj (h.symm.trans h'))

omit [LawfulMonad m] in
theorem takes_pure (x : α) (cs : List Char) : Takes (pure x : StateT (List Char) m α) cs x cs := rfl

omit [LawfulMonad m] in
theorem takes_get (cs : List Char) : Takes (get : StateT (List Char) m (List Char)) cs cs cs := rfl

/-- Characters differ that a class tells apart. -/
theorem ne_of_class {p : Char → Bool} {c d : Char} (hc : p c = true) (hd : p d = false) : c ≠ d := by
  rintro rfl
  rw [hc] at hd
  cases hd

theorem cons_ne_of_class {p : Char → Bool} {c d : Char} (hc : p c = true) (hd : p d = false)
    (cs ds : List Char) : c :: cs ≠ d :: ds :=
  fun h => ne_of_class hc hd (List.cons.inj h).1

/-- Whether a text does not go on with a digit. -/
def StopsDigits (cs : List Char) : Prop :=
  cs.takeWhile Numeral.isDigit = []

theorem stopsDigits_cons {c : Char} (h : Numeral.isDigit c = false) (cs : List Char) :
    StopsDigits (c :: cs) :=
  List.takeWhile_cons_of_neg (by simp [h])

theorem StopsDigits.take (h : StopsDigits cs) (n : ℕ) : StopsDigits (cs.take n) := by
  cases cs with
  | nil => rwa [List.take_nil]
  | cons c cs =>
    cases n with
    | zero => rfl
    | succ n =>
      cases hc : Numeral.isDigit c with
      | false => exact stopsDigits_cons hc _
      | true =>
        rw [StopsDigits, List.takeWhile_cons_of_pos hc] at h
        cases h

theorem StopsDigits.dropWhile (h : StopsDigits cs) : cs.dropWhile Numeral.isDigit = cs := by
  have happend := List.takeWhile_append_dropWhile (p := Numeral.isDigit) (l := cs)
  rwa [h] at happend

theorem isDigit_of_append_eq_cons {c : Char} (hdigit : ∀ c ∈ ds, Numeral.isDigit c = true)
    (hlength : 0 < ds.length) (h : ds ++ rest = c :: cs) : Numeral.isDigit c = true := by
  obtain ⟨d, ds, rfl⟩ := List.exists_cons_of_length_pos hlength
  obtain ⟨rfl, -⟩ := List.cons.inj h
  exact hdigit d List.mem_cons_self

omit [Monad m] [LawfulMonad m] in
theorem length_le_flatMap {l : List α} {f : α → List β} (h : ∀ a ∈ l, f a ≠ []) :
    l.length ≤ (l.flatMap f).length := by
  induction l with
  | nil => exact Nat.le_refl 0
  | cons a l ih =>
    obtain ⟨ha, hl⟩ := List.forall_mem_cons.mp h
    have hpos := List.length_pos_of_ne_nil ha
    have hle := ih hl
    rw [List.flatMap_cons, List.length_append, List.length_cons]
    omega

end WalletRecovery.Text
