import WalletRecovery.Proofs.Text.Blank

/-! # Pieces of a text

A text that is cut at separators falls into pieces without any. -/

namespace WalletRecovery.Text

variable {p : Char → Bool} {cs ds : List Char}

theorem exists_splitOnP_eq_cons (p : Char → Bool) (cs : List Char) :
    ∃ piece pieces, cs.splitOnP p = piece :: pieces :=
  List.exists_cons_of_ne_nil (List.splitOnP_ne_nil p cs)

theorem splitOnP_cons_of_neg {c : Char} {piece : List Char} {pieces : List (List Char)}
    (hc : p c = false) (h : cs.splitOnP p = piece :: pieces) :
    (c :: cs).splitOnP p = (c :: piece) :: pieces := by
  rw [List.splitOnP_cons_eq_if_modifyHead, if_neg (by simp [hc]), h]
  rfl

theorem splitOnP_cons_of_pos {c : Char} (hc : p c = true) :
    (c :: cs).splitOnP p = [] :: cs.splitOnP p := by
  rw [List.splitOnP_cons_eq_if_modifyHead, if_pos hc]

theorem eq_false_of_mem_splitOnP {piece : List Char} (h : piece ∈ cs.splitOnP p) :
    ∀ c ∈ piece, p c = false := by
  induction cs generalizing piece with
  | nil =>
    obtain rfl := List.mem_singleton.mp h
    exact List.forall_mem_nil _
  | cons c cs ih =>
    cases hc : p c with
    | true =>
      rw [splitOnP_cons_of_pos hc] at h
      rcases List.mem_cons.mp h with rfl | h
      · exact List.forall_mem_nil _
      · exact ih h
    | false =>
      obtain ⟨first, pieces, hcs⟩ := exists_splitOnP_eq_cons p cs
      rw [splitOnP_cons_of_neg hc hcs] at h
      rw [hcs] at ih
      rcases List.mem_cons.mp h with rfl | h
      · exact List.forall_mem_cons.mpr ⟨hc, ih List.mem_cons_self⟩
      · exact ih (List.mem_cons_of_mem _ h)

theorem head?_splitOnP (p : Char → Bool) (cs : List Char) :
    (cs.splitOnP p).head? = some (cs.takeWhile fun c => ! p c) := by
  induction cs with
  | nil => rfl
  | cons c cs ih =>
    cases hc : p c with
    | true => rw [splitOnP_cons_of_pos hc, List.takeWhile_cons_of_neg (by simp [hc])]; rfl
    | false =>
      obtain ⟨first, pieces, hcs⟩ := exists_splitOnP_eq_cons p cs
      rw [hcs] at ih
      rw [splitOnP_cons_of_neg hc hcs, List.takeWhile_cons_of_pos (by simp [hc])]
      exact congrArg (Option.map (c :: ·)) ih

theorem head?_splitOn (sep : Char) (cs : List Char) :
    (cs.splitOn sep).head? = some (cs.takeWhile (· ≠ sep)) := by
  have hsame : (fun c => ! (c == sep)) = fun c => decide (c ≠ sep) := by
    funext c
    rw [Bool.eq_iff_iff]
    simp
  rw [List.splitOn_eq_splitOnP, head?_splitOnP, hsame]

/-- Pieces joined by a separator, with a separator before each but the first. -/
theorem intercalate_cons_eq (sep : Char) (piece : List Char) (pieces : List (List Char)) :
    [sep].intercalate (piece :: pieces) = piece ++ pieces.flatMap (sep :: ·) := by
  induction pieces generalizing piece with
  | nil => simp
  | cons next pieces ih =>
    rw [List.intercalate_cons_cons, ih, List.flatMap_cons]
    simp

end WalletRecovery.Text
