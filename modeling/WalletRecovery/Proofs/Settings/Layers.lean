import WalletRecovery.Settings.Plan
import Mathlib.Data.List.Basic

/-! # Layers of settings

Settings from several sources are laid over each other, one after the other. Every field then has the
value of the last layer that sets it, so it makes no difference which layers are joined first, and a
layer has no say in a field that a layer above it sets. -/

namespace WalletRecovery.Settings

/-- The fields of settings, each with the value that it has where it is not set. -/
inductive IsField : {α : Type} → α → (Settings → α) → Prop where
  | format : IsField none Settings.format
  | derivationPath : IsField none Settings.derivationPath
  | recoveryWindow : IsField 0 Settings.recoveryWindow
  | rescanFrom : IsField 0 Settings.rescanFrom
  | birthday : IsField none Settings.birthday

/-- The value that layers give to a field: that of the last layer that sets it. -/
inductive LastSet {α : Type} (unset : α) (field : Settings → α) : List Settings → α → Prop where
  | nowhere {layers : List Settings} : (∀ s ∈ layers, field s = unset) →
      LastSet unset field layers unset
  | last {below above : List Settings} {s : Settings} : field s ≠ unset →
      (∀ t ∈ above, field t = unset) → LastSet unset field (below ++ s :: above) (field s)

/-- Whether settings have in every field the value that layers give to it. -/
def Layered (layers : List Settings) (s : Settings) : Prop :=
  ∀ ⦃α : Type⦄ ⦃unset : α⦄ ⦃field : Settings → α⦄, IsField unset field →
    LastSet unset field layers (field s)

/-- Whether settings agree in every field that no layer above them sets. -/
def AlikeUnder (above : List Settings) (s t : Settings) : Prop :=
  ∀ ⦃α : Type⦄ ⦃unset : α⦄ ⦃field : Settings → α⦄, IsField unset field →
    field s = field t ∨ ∃ u ∈ above, field u ≠ unset

/-- Whether layers differ only in fields that a layer above them sets. -/
inductive SameButHidden : List Settings → List Settings → Prop where
  | same (layers : List Settings) : SameButHidden layers layers
  | cons {s t : Settings} {above above' : List Settings} : AlikeUnder above s t →
      SameButHidden above above' → SameButHidden (s :: above) (t :: above')

/-- A way to join layers: two neighbours at a time, in any order. -/
inductive Grouping where
  | layer (s : Settings)
  | join (lower upper : Grouping)

def Grouping.layers : Grouping → List Settings
  | layer s => [s]
  | join lower upper => lower.layers ++ upper.layers

def Grouping.settings : Grouping → Settings
  | layer s => s
  | join lower upper => lower.settings.overlay upper.settings

variable {s t lower upper : Settings} {layers layers' above : List Settings}

theorem eq_of_fields (h : ∀ ⦃α : Type⦄ ⦃unset : α⦄ ⦃field : Settings → α⦄,
    IsField unset field → field s = field t) : s = t := by
  cases s
  cases t
  rw [mk.injEq]
  exact ⟨h .format, h .derivationPath, h .recoveryWindow, h .rescanFrom, h .birthday⟩

namespace IsField

variable {α : Type} {unset : α} {field : Settings → α}

theorem empty (h : IsField unset field) : field {} = unset := by
  cases h <;> rfl

theorem overlay_of_unset (h : IsField unset field) (hupper : field upper = unset) :
    field (lower.overlay upper) = field lower := by
  -- what is not set is missing in one kind of fields and zero in the other
  cases h with
  | format | derivationPath | birthday => simp only [overlay, hupper, Option.none_or]
  | recoveryWindow | rescanFrom => exact if_pos hupper

theorem overlay_of_set (h : IsField unset field) (hupper : field upper ≠ unset) :
    field (lower.overlay upper) = field upper := by
  cases h with
  | format | derivationPath | birthday =>
    obtain ⟨x, hx⟩ := Option.ne_none_iff_exists'.mp hupper
    simp only [overlay, hx, Option.some_or]
  | recoveryWindow | rescanFrom => exact if_neg hupper

theorem foldl_of_unset (h : IsField unset field) (hall : ∀ u ∈ above, field u = unset)
    (s : Settings) : field (above.foldl overlay s) = field s := by
  induction above generalizing s with
  | nil => rfl
  | cons u above ih =>
    rw [List.forall_mem_cons] at hall
    rw [List.foldl_cons, ih hall.2, h.overlay_of_unset hall.1]

/-- What lies below layers makes no difference to a field exactly if it is the same there, or one of
the layers sets it. -/
theorem foldl_eq_foldl_iff (h : IsField unset field) (above : List Settings) (s t : Settings) :
    field (above.foldl overlay s) = field (above.foldl overlay t) ↔
      field s = field t ∨ ∃ u ∈ above, field u ≠ unset := by
  induction above generalizing s t with
  | nil => simp
  | cons u above ih =>
    rw [List.foldl_cons, List.foldl_cons, ih, List.exists_mem_cons_iff]
    by_cases hu : field u = unset
    · rw [h.overlay_of_unset hu, h.overlay_of_unset hu]
      simp [hu]
    · rw [h.overlay_of_set hu, h.overlay_of_set hu]
      simp [hu]

end IsField

theorem empty_overlay (s : Settings) : overlay {} s = s := by
  apply eq_of_fields
  intro _ unset field h
  by_cases hs : field s = unset
  · rw [h.overlay_of_unset hs, h.empty, hs]
  · exact h.overlay_of_set hs

theorem overlay_empty (s : Settings) : s.overlay {} = s := by
  apply eq_of_fields
  intro _ _ _ h
  exact h.overlay_of_unset h.empty

theorem overlay_assoc (a b c : Settings) :
    (a.overlay b).overlay c = a.overlay (b.overlay c) := by
  apply eq_of_fields
  intro _ unset field h
  by_cases hc : field c = unset
  · have hbc : field (b.overlay c) = field b := h.overlay_of_unset hc
    rw [h.overlay_of_unset hc]
    by_cases hb : field b = unset
    · rw [h.overlay_of_unset hb, h.overlay_of_unset (hbc.trans hb)]
    · rw [h.overlay_of_set hb, h.overlay_of_set (hbc ▸ hb), hbc]
  · have hbc : field (b.overlay c) = field c := h.overlay_of_set hc
    rw [h.overlay_of_set hc, h.overlay_of_set (hbc ▸ hc), hbc]

instance : Std.Associative overlay := ⟨overlay_assoc⟩

theorem overlay_foldl (s : Settings) (layers : List Settings) :
    s.overlay (layers.foldl overlay {}) = layers.foldl overlay s := by
  rw [← @List.foldl_assoc _ overlay, overlay_empty]

theorem Grouping.settings_eq_foldl (g : Grouping) : g.settings = g.layers.foldl overlay {} := by
  induction g with
  | layer s => exact (empty_overlay s).symm
  | join lower upper ihlower ihupper =>
    rw [settings, layers, ihlower, ihupper, overlay_foldl, ← List.foldl_append]

theorem exists_lastSet {α : Type} (unset : α) (field : Settings → α) (layers : List Settings) :
    ∃ x, LastSet unset field layers x := by
  induction layers with
  | nil => exact ⟨unset, .nowhere (List.forall_mem_nil _)⟩
  | cons s layers ih =>
    obtain ⟨x, hx⟩ := ih
    cases hx with
    | nowhere hall =>
      by_cases hs : field s = unset
      · exact ⟨unset, .nowhere (List.forall_mem_cons.mpr ⟨hs, hall⟩)⟩
      · exact ⟨field s, @LastSet.last _ _ _ [] _ _ hs hall⟩
    | @last below above t ht hall =>
      exact ⟨field t, @LastSet.last _ _ _ (s :: below) _ _ ht hall⟩

theorem LastSet.field_foldl {α : Type} {unset x : α} {field : Settings → α}
    (h : LastSet unset field layers x) (hfield : IsField unset field) :
    field (layers.foldl overlay {}) = x := by
  cases h with
  | nowhere hall => rw [hfield.foldl_of_unset hall, hfield.empty]
  | last hs hall =>
    rw [List.foldl_append, List.foldl_cons, hfield.foldl_of_unset hall, hfield.overlay_of_set hs]

theorem foldl_overlay_eq_iff : layers.foldl overlay {} = s ↔ Layered layers s := by
  constructor
  · rintro rfl _ unset field hfield
    obtain ⟨x, hx⟩ := exists_lastSet unset field layers
    rw [hx.field_foldl hfield]
    exact hx
  · intro h
    apply eq_of_fields
    intro _ _ _ hfield
    exact (h hfield).field_foldl hfield

theorem foldl_overlay_eq_foldl_iff :
    above.foldl overlay s = above.foldl overlay t ↔ AlikeUnder above s t := by
  constructor
  · intro h _ unset field hfield
    exact (hfield.foldl_eq_foldl_iff above s t).mp (congrArg field h)
  · intro h
    apply eq_of_fields
    intro _ _ _ hfield
    exact (hfield.foldl_eq_foldl_iff above s t).mpr (h hfield)

theorem AlikeUnder.overlay (h : AlikeUnder above s t) (lower : Settings) :
    AlikeUnder above (lower.overlay s) (lower.overlay t) := by
  intro _ unset field hfield
  rcases h hfield with heq | hset
  · left
    by_cases hs : field s = unset
    · rw [hfield.overlay_of_unset hs, hfield.overlay_of_unset (heq ▸ hs)]
    · rw [hfield.overlay_of_set hs, hfield.overlay_of_set (heq ▸ hs), heq]
  · exact Or.inr hset

theorem SameButHidden.foldl_eq (h : SameButHidden layers layers') (s : Settings) :
    layers.foldl Settings.overlay s = layers'.foldl Settings.overlay s := by
  induction h generalizing s with
  | same => rfl
  | cons halike _ ih =>
    -- the layers above are still the old ones here, and they hide the difference
    have hlayer := foldl_overlay_eq_foldl_iff.mpr (halike.overlay s)
    rw [List.foldl_cons, List.foldl_cons, hlayer, ih]

end WalletRecovery.Settings
