import WalletRecovery.Text.Blank
import Mathlib.Data.List.TakeWhile

/-! # Blanks and trimming

Blanks around a text without blanks are taken off, and nothing else is. The graphic characters of
ASCII, of which keys and labels are made, are no blanks. -/

namespace WalletRecovery.Text

def AllBlank (cs : List Char) : Prop :=
  ∀ c ∈ cs, isBlank c = true

instance (cs : List Char) : Decidable (AllBlank cs) :=
  List.decidableBAll (p := fun c : Char => isBlank c = true) cs

def NoBlank (cs : List Char) : Prop :=
  ∀ c ∈ cs, isBlank c = false

/-- Whether all characters of a text are graphic: those of ASCII from the exclamation mark to the
tilde. -/
def Graphic (cs : List Char) : Prop :=
  ∀ c ∈ cs, 33 ≤ c.toNat ∧ c.toNat ≤ 126

instance (cs : List Char) : Decidable (Graphic cs) :=
  List.decidableBAll (p := fun c : Char => 33 ≤ c.toNat ∧ c.toNat ≤ 126) cs

theorem Graphic.append {cs ds : List Char} (hc : Graphic cs) (hd : Graphic ds) :
    Graphic (cs ++ ds) := by
  intro c h
  rcases List.mem_append.mp h with h | h
  · exact hc c h
  · exact hd c h

theorem Graphic.noBlank {cs : List Char} (h : Graphic cs) : NoBlank cs := by
  intro c hc
  obtain ⟨hge, hle⟩ := h c hc
  simp only [isBlank, Bool.or_eq_false_iff, Bool.and_eq_false_iff, decide_eq_false_iff_not,
    beq_eq_false_iff_ne]
  omega

theorem trimEnd_append {cs ws : List Char} (hws : AllBlank ws) :
    trimEnd (cs ++ ws) = trimEnd cs := by
  rw [trimEnd, trimEnd, List.reverse_append, List.dropWhile_append_of_pos]
  intro c hc
  exact hws c (List.mem_reverse.mp hc)

/-- Whether a text neither begins nor ends with a blank. -/
structure Enclosed (cs : List Char) : Prop where
  head : ∀ c ∈ cs.head?, isBlank c = false
  last : ∀ c ∈ cs.getLast?, isBlank c = false

theorem NoBlank.enclosed {cs : List Char} (h : NoBlank cs) : Enclosed cs :=
  ⟨fun c hc => h c (List.mem_of_mem_head? hc), fun c hc => h c (List.mem_of_mem_getLast? hc)⟩

theorem NoBlank.cons {c : Char} {cs : List Char} (hc : isBlank c = false) (h : NoBlank cs) :
    NoBlank (c :: cs) :=
  List.forall_mem_cons.mpr ⟨hc, h⟩

theorem NoBlank.append {cs ds : List Char} (h : NoBlank cs) (h' : NoBlank ds) :
    NoBlank (cs ++ ds) :=
  List.forall_mem_append.mpr ⟨h, h'⟩

theorem enclosed_append {cs ds : List Char} (hcs : NoBlank cs) (hne : cs ≠ []) (hds : NoBlank ds)
    (hne' : ds ≠ []) (mid : List Char) : Enclosed (cs ++ (mid ++ ds)) := by
  constructor
  · intro c hc
    rw [List.head?_append, List.head?_eq_some_head hne] at hc
    exact hcs c (List.mem_of_mem_head? ((List.head?_eq_some_head hne).trans hc))
  · intro c hc
    rw [← List.append_assoc, List.getLast?_append, List.getLast?_eq_some_getLast hne'] at hc
    exact hds c (List.mem_of_mem_getLast? ((List.getLast?_eq_some_getLast hne').trans hc))

theorem trimEnd_of_enclosed {cs : List Char} (h : Enclosed cs) : trimEnd cs = cs := by
  rw [trimEnd]
  cases hcs : cs.reverse with
  | nil => simp [List.reverse_eq_nil_iff.mp hcs]
  | cons c ds =>
    have hlast : cs.getLast? = some c := by
      rw [← List.head?_reverse, hcs, List.head?_cons]
    rw [List.dropWhile_cons_of_neg (by simp [h.last c hlast]), ← hcs, List.reverse_reverse]

theorem trim_of_enclosed {ws cs ws' : List Char} (hws : AllBlank ws) (hcs : Enclosed cs)
    (hws' : AllBlank ws') : trim (ws ++ cs ++ ws') = cs := by
  rw [trim, trimStart, List.append_assoc, List.dropWhile_append_of_pos hws]
  cases cs with
  | nil =>
    rw [List.nil_append, List.dropWhile_eq_nil_iff.mpr hws']
    rfl
  | cons c cs =>
    have hc := hcs.head c rfl
    rw [List.cons_append, List.dropWhile_cons_of_neg (by simp [hc]), ← List.cons_append,
      trimEnd_append hws', trimEnd_of_enclosed hcs]

theorem trim_append_append {ws cs ws' : List Char} (hws : AllBlank ws) (hcs : NoBlank cs)
    (hws' : AllBlank ws') : trim (ws ++ cs ++ ws') = cs :=
  trim_of_enclosed hws hcs.enclosed hws'

theorem allBlank_takeWhile (cs : List Char) : AllBlank (cs.takeWhile isBlank) :=
  fun _ hc => List.mem_takeWhile_imp hc

/-- A text is what trimming leaves of it, with blanks around. -/
theorem exists_append_trim (cs : List Char) :
    ∃ ws ws', AllBlank ws ∧ AllBlank ws' ∧ cs = ws ++ trim cs ++ ws' := by
  refine ⟨cs.takeWhile isBlank, ((trimStart cs).reverse.takeWhile isBlank).reverse,
    allBlank_takeWhile cs, ?_, ?_⟩
  · intro c hc
    exact allBlank_takeWhile _ c (List.mem_reverse.mp hc)
  · rw [trim, trimEnd, List.append_assoc, ← List.reverse_append,
      List.takeWhile_append_dropWhile, List.reverse_reverse, trimStart,
      List.takeWhile_append_dropWhile]

end WalletRecovery.Text
