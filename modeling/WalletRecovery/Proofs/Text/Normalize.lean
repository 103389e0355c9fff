import WalletRecovery.Proofs.Text.Pieces
import WalletRecovery.Text.Normalize

/-! # Words in normal form

The normal form keeps a blank a blank, and no mark is moved across one. So it comes to the same
whether a text is cut into words before or after it is brought into normal form, and blanks around
it make no difference. -/

namespace WalletRecovery.Text

variable {c d : Char} {cs ds : List Char}

/-! ## Words -/

theorem words_append_cons (hc : isBlank c = true) (cs ds : List Char) :
    words (cs ++ c :: ds) = words cs ++ words ds := by
  rw [words, List.splitOnP_append_cons cs ds hc, List.filter_append]
  rfl

theorem words_of_noBlank (h : NoBlank cs) : words cs = if cs = [] then [] else [cs] := by
  rw [words, List.splitOnP_eq_singleton h]
  by_cases hcs : cs = []
  · simp [hcs]
  · simp [hcs]

theorem words_of_allBlank (h : AllBlank cs) : words cs = [] := by
  induction cs with
  | nil => rfl
  | cons c cs ih =>
    obtain ⟨hc, hcs⟩ := List.forall_mem_cons.mp h
    exact (words_append_cons hc [] cs).trans (ih hcs)

theorem words_append_of_allBlank (h : AllBlank ds) : words (cs ++ ds) = words cs := by
  cases ds with
  | nil => rw [List.append_nil]
  | cons d ds =>
    obtain ⟨hd, hds⟩ := List.forall_mem_cons.mp h
    rw [words_append_cons hd, words_of_allBlank hds, List.append_nil]

theorem words_of_allBlank_append (h : AllBlank cs) : words (cs ++ ds) = words ds := by
  induction cs with
  | nil => rfl
  | cons c cs ih =>
    obtain ⟨hc, hcs⟩ := List.forall_mem_cons.mp h
    exact (words_append_cons hc [] (cs ++ ds)).trans (ih hcs)

theorem words_trim (cs : List Char) : words (trim cs) = words cs := by
  obtain ⟨ws, ws', hws, hws', hcs⟩ := exists_append_trim cs
  have hwords := congrArg words hcs
  rw [words_append_of_allBlank hws', words_of_allBlank_append hws] at hwords
  exact hwords.symm

/-- A text is free of blanks, or two texts with a blank between them. -/
theorem blank_induction {P : List Char → Prop} (noBlank : ∀ cs, NoBlank cs → P cs)
    (joined : ∀ cs c ds, isBlank c = true → P cs → P ds → P (cs ++ c :: ds)) (cs : List Char) :
    P cs := by
  -- `front` is what was met since the last blank
  suffices h : ∀ front, NoBlank front → P (front ++ cs) from h [] (List.forall_mem_nil _)
  induction cs with
  | nil =>
    intro front hfront
    rw [List.append_nil]
    exact noBlank front hfront
  | cons c cs ih =>
    intro front hfront
    cases hc : isBlank c with
    | true => exact joined front c cs hc (noBlank front hfront) (ih [] (List.forall_mem_nil _))
    | false =>
      rw [List.append_cons]
      exact ih _ (hfront.append (List.forall_mem_singleton.mpr hc))

/-! ## Normal form -/

theorem place_of_starter (hc : combiningClass c = 0) (cs : List Char) : place c cs = c :: cs := by
  cases cs with
  | nil => rfl
  | cons d cs =>
    rw [place, if_neg]
    rintro ⟨-, hlt⟩
    omega

/-- A mark stays in front of the next starter. -/
theorem place_append_cons (hd : combiningClass d = 0) (c : Char) (cs ds : List Char) :
    place c (cs ++ d :: ds) = place c cs ++ d :: ds := by
  induction cs with
  | nil =>
    change (if combiningClass d ≠ 0 ∧ combiningClass d < combiningClass c then d :: place c ds
      else c :: d :: ds) = c :: d :: ds
    rw [if_neg]
    rintro ⟨hne, -⟩
    exact hne hd
  | cons e cs ih =>
    rw [List.cons_append, place, place]
    split
    · rw [ih, List.cons_append]
    · rfl

theorem sortMarks_append_cons (hd : combiningClass d = 0) (cs ds : List Char) :
    sortMarks (cs ++ d :: ds) = sortMarks cs ++ d :: sortMarks ds := by
  induction cs with
  | nil => exact place_of_starter hd _
  | cons c cs ih => rw [List.cons_append, sortMarks, ih, place_append_cons hd, sortMarks]

theorem decompose_of_blank (hc : isBlank c = true) :
    ∃ d, decompose c = [d] ∧ isBlank d = true ∧ combiningClass d = 0 ∧
      (d = c ∨ d = ' ' ∧ 0xa0 ≤ c.toNat) := by
  by_cases hlow : c.toNat < 0xa0
  · refine ⟨c, by simp [decompose, hlow], hc, ?_, .inl rfl⟩
    rw [combiningClass, if_pos (by omega)]
  by_cases hkept : c.toNat = 0x1680 ∨ c.toNat = 0x2028 ∨ c.toNat = 0x2029
  · refine ⟨c, by simp [decompose, hlow, hc, hkept], hc, ?_, .inl rfl⟩
    rcases hkept with h | h | h <;> simp only [combiningClass, h] <;> decide
  · exact ⟨' ', by simp [decompose, hlow, hc, hkept], rfl, rfl, .inr ⟨rfl, by omega⟩⟩

/-- A blank parts the normal form of a text where it parts the text. -/
theorem nfkd_append_cons (hc : isBlank c = true) :
    ∃ d, decompose c = [d] ∧ isBlank d = true ∧ (d = c ∨ d = ' ' ∧ 0xa0 ≤ c.toNat) ∧
      ∀ cs ds, nfkd (cs ++ c :: ds) = nfkd cs ++ d :: nfkd ds := by
  obtain ⟨d, hdecompose, hd, hclass, hkept⟩ := decompose_of_blank hc
  refine ⟨d, hdecompose, hd, hkept, ?_⟩
  intro cs ds
  rw [nfkd, List.flatMap_append, List.flatMap_cons, hdecompose, List.singleton_append,
    sortMarks_append_cons hclass, nfkd, nfkd]

theorem words_nfkd (cs : List Char) :
    words (nfkd cs) = (words cs).flatMap fun word => words (nfkd word) := by
  induction cs using blank_induction with
  | noBlank cs h =>
    rw [words_of_noBlank h]
    by_cases hcs : cs = []
    · subst cs
      rfl
    · rw [if_neg hcs, List.flatMap_singleton]
  | joined cs c ds hc ihcs ihds =>
    obtain ⟨d, -, hd, -, hparts⟩ := nfkd_append_cons hc
    rw [hparts, words_append_cons hd, ihcs, ihds, words_append_cons hc, List.flatMap_append]

/-- Whatever blanks stand around and between the words of a text, they are the same in normal
form. -/
theorem words_nfkd_congr (h : words cs = words ds) : words (nfkd cs) = words (nfkd ds) := by
  rw [words_nfkd cs, words_nfkd ds, h]

end WalletRecovery.Text
