import WalletRecovery.Proofs.Text.Blank
import WalletRecovery.Proofs.Time.Strict

/-! # Tolerance

The lenient reader finds the same instant in every text that the strict one accepts, and blanks
around it do not matter. Piece by piece it takes what the strict one takes; a blank that stands
behind the text is no digit and no mark, so it ends every piece. -/

namespace WalletRecovery

namespace Timestamp

open Scan Text

variable {α β γ δ : Type} {cs ws : List Char} {t : Instant}

/-- Whether one reader takes whatever another one takes, also if blanks follow the text. What it
finds is an image of what the other one finds. -/
def Covers (f : α → β) (lenient : Scan β) (strict : Scan α) : Prop :=
  ∀ cs x rest ws, AllBlank ws → Takes strict cs x rest → Takes lenient (cs ++ ws) (f x) (rest ++ ws)

theorem Covers.bind {f : α → β} {g : γ → δ} {lenient : Scan β} {strict : Scan α}
    {lenient' : β → Scan δ} {strict' : α → Scan γ} (h : Covers f lenient strict)
    (h' : ∀ x, Covers g (lenient' (f x)) (strict' x)) :
    Covers g (lenient >>= lenient') (strict >>= strict') := by
  intro cs y rest ws hws htakes
  obtain ⟨x, mid, hx, hy⟩ := exists_takes_of_bind htakes
  exact (h cs x mid ws hws hx).bind (h' x mid y rest ws hws hy)

theorem covers_pure (f : α → β) (x : α) : Covers f (pure (f x)) (pure x) := by
  intro cs y rest ws _ htakes
  obtain ⟨rfl, rfl⟩ := Prod.mk.inj (Except.ok.inj htakes)
  exact takes_pure (f x) (cs ++ ws)

theorem stopsDigits_append {rest : List Char} (h : StopsDigits rest) (hws : AllBlank ws) :
    StopsDigits (rest ++ ws) := by
  cases rest with
  | cons c rest =>
    cases hc : Numeral.isDigit c with
    | false => exact stopsDigits_cons hc _
    | true =>
      rw [StopsDigits, List.takeWhile_cons_of_pos hc] at h
      cases h
  | nil =>
    cases ws with
    | nil => rfl
    | cons c ws =>
      refine stopsDigits_cons ?_ ws
      cases hc : Numeral.isDigit c with
      | false => rfl
      | true =>
        have hblank := hws c List.mem_cons_self
        rw [isBlank_of_isDigit hc] at hblank
        cases hblank

theorem covers_mark {c : Char} (hc : isBlank c = false) : Covers id (spacedMark c) (mark c) := by
  intro cs x rest ws _ htakes
  obtain rfl := eq_cons_of_takes_mark htakes
  exact takes_spacedMark hc (rest ++ ws)

theorem covers_separator : Covers id separator separator := by
  intro cs x rest ws _ htakes
  obtain ⟨c, hc, rfl⟩ := exists_cons_of_takes_separator htakes
  exact takes_separator hc (rest ++ ws)

theorem covers_year : Covers Nat.cast year (number 4 4) := by
  intro cs n rest ws _ htakes
  obtain ⟨ds, hdigit, hlength, rfl, rfl⟩ := exists_digits_of_takes_number htakes
  rw [List.append_assoc]
  have hnumber : Takes (number 1 4) (ds ++ (rest ++ ws)) _ (rest ++ ws) :=
    takes_number hdigit (by omega) hlength.le (Or.inl hlength)
  have hlt := Numeral.ofDecimal_lt hdigit
  rw [hlength] at hlt
  refine (takes_blanks_of_digits hdigit (by omega) _).bind (Takes.bind rfl ?_)
  dsimp only
  split
  · next heq => exact absurd (isDigit_of_append_eq_cons hdigit (by omega) heq) (by decide)
  · next heq => exact absurd (isDigit_of_append_eq_cons hdigit (by omega) heq) (by decide)
  · refine hnumber.bind (Takes.bind (takes_pure _ _) ?_)
    rw [if_pos ⟨by omega, by omega⟩]
    exact takes_pure _ _

theorem covers_field (low high : ℕ) : Covers id (field low high) (numberWithin 2 2 low high) := by
  intro cs n rest ws _ htakes
  obtain ⟨hbounds, ds, hdigit, hlength, rfl, rfl⟩ := exists_digits_of_takes_numberWithin htakes
  rw [List.append_assoc]
  have hnumber : Takes (number 1 2) (ds ++ (rest ++ ws)) _ (rest ++ ws) :=
    takes_number hdigit (by omega) hlength.le (Or.inl hlength)
  refine (takes_blanks_of_digits hdigit (by omega) _).bind (hnumber.bind ?_)
  rw [if_pos hbounds]
  exact takes_pure _ _

theorem covers_fraction : Covers id fraction fraction := by
  intro cs nanos rest ws hws htakes
  rcases takes_fraction_cases htakes with ⟨rfl, rfl, hpoint⟩ | ⟨ds, hdigit, hne, hstop, rfl, rfl⟩
  · have hpoint' : ∀ tail, rest ++ ws ≠ '.' :: tail := by
      intro tail heq
      cases rest with
      | nil =>
        rw [List.nil_append] at heq
        have hblank := hws '.' (heq ▸ List.mem_cons_self)
        cases hblank
      | cons c rest =>
        obtain ⟨rfl, -⟩ := List.cons.inj heq
        exact hpoint rest rfl
    rw [Takes, fraction]
    · rfl
    · exact hpoint'
  · rw [List.cons_append, List.append_assoc]
    exact takes_fraction_point hdigit hne (stopsDigits_append hstop hws)

theorem covers_sign : Covers id sign sign := by
  intro cs factor rest ws _ htakes
  obtain ⟨c, rfl, ⟨rfl, rfl⟩ | ⟨rfl | rfl, rfl⟩⟩ := exists_cons_of_takes_sign htakes
  · rfl
  · rfl
  · rfl

theorem covers_twoDigits : Covers id twoDigits twoDigits := by
  intro cs n rest ws _ htakes
  obtain ⟨a, b, ha, hb, rfl, rfl⟩ := exists_digits_of_takes_twoDigits htakes
  exact takes_twoDigits_cons ha hb (rest ++ ws)

/-- Where a colon stands between two numbers, nothing else is skipped. -/
theorem covers_colon : Covers id (colonsOrBlanks >>= fun _ => twoDigits)
    (mark ':' >>= fun _ => twoDigits) := by
  intro cs n rest ws hws htakes
  obtain ⟨_, mid, hmark, hdigits⟩ := exists_takes_of_bind htakes
  obtain rfl := eq_cons_of_takes_mark hmark
  have htaken := covers_twoDigits _ _ _ _ hws hdigits
  obtain ⟨a, b, ha, -, -, rfl⟩ := exists_digits_of_takes_twoDigits hdigits
  have hstop : (a == ':' || isBlank a) = false := by
    rw [isBlank_of_isDigit ha, Bool.or_false, beq_eq_false_iff_ne]
    exact ne_of_class ha rfl
  have hskip : Takes colonsOrBlanks (':' :: a :: b :: rest ++ ws) () (a :: b :: rest ++ ws) := by
    simp only [Takes, colonsOrBlanks, List.cons_append, List.dropWhile_cons, hstop]
    rfl
  exact hskip.bind htaken

theorem covers_signedOffset :
    Covers id (signedOffset colonsOrBlanks) (signedOffset (mark ':')) := by
  rw [signedOffset, signedOffset]
  refine covers_sign.bind fun factor => covers_twoDigits.bind fun hours => ?_
  -- a colon is covered only together with the digits behind it
  rw [← bind_assoc, ← bind_assoc]
  refine covers_colon.bind fun minutes => ?_
  intro cs offset rest ws _ htakes
  split at htakes
  · next hlt =>
    obtain ⟨rfl, rfl⟩ := Prod.mk.inj (Except.ok.inj htakes)
    rw [id, if_pos hlt]
    exact takes_pure _ _
  · cases htakes

theorem lenientOffset_cons {c : Char} (hc : c.toUpper ≠ 'U') (cs : List Char) :
    lenientOffset (c :: cs) = offset colonsOrBlanks (c :: cs) := by
  rw [lenientOffset, if_neg]
  intro heq
  exact hc (List.cons.inj heq).1

theorem covers_offset :
    Covers id (blanks >>= fun _ => lenientOffset) (offset (mark ':')) := by
  intro cs minutes rest ws hws htakes
  rw [Takes, offset.eq_def] at htakes
  split at htakes
  · obtain ⟨rfl, rfl⟩ := Prod.mk.inj (Except.ok.inj htakes)
    refine (takes_blanks (by decide) _).bind ?_
    rw [Takes, lenientOffset_cons (by decide)]
    rfl
  · obtain ⟨rfl, rfl⟩ := Prod.mk.inj (Except.ok.inj htakes)
    refine (takes_blanks (by decide) _).bind ?_
    rw [Takes, lenientOffset_cons (by decide)]
    rfl
  · have htaken := covers_signedOffset _ _ _ _ hws htakes
    obtain ⟨_, _, hsign, -⟩ := exists_takes_of_bind htakes
    obtain ⟨c, rfl, hc⟩ := exists_cons_of_takes_sign hsign
    obtain ⟨hblank, hU, hZ, hz⟩ :
        isBlank c = false ∧ c.toUpper ≠ 'U' ∧ c ≠ 'Z' ∧ c ≠ 'z' := by
      rcases hc with ⟨rfl, -⟩ | ⟨rfl | rfl, -⟩ <;> decide
    refine (takes_blanks hblank _).bind ?_
    rw [Takes, lenientOffset_cons hU, offset_cons hZ hz]
    exact htaken

theorem covers_stamp : Covers id lenientStamp strictStamp := by
  refine covers_year.bind fun y => (covers_mark (by decide)).bind fun _ => ?_
  refine (covers_field 1 12).bind fun month => (covers_mark (by decide)).bind fun _ => ?_
  refine (covers_field 1 31).bind fun day => covers_separator.bind fun _ => ?_
  refine (covers_field 0 23).bind fun hour => (covers_mark (by decide)).bind fun _ => ?_
  refine (covers_field 0 59).bind fun minute => (covers_mark (by decide)).bind fun _ => ?_
  refine (covers_field 0 60).bind fun second => covers_fraction.bind fun nanos => ?_
  -- blanks that are skipped in front of an offset are no piece of the strict format
  rw [← bind_assoc]
  exact covers_offset.bind fun minutes => covers_pure id _

theorem bind_congr_front {reader : Scan α} {ds : List Char} (h : reader cs = reader ds)
    (f : α → Scan β) : (reader >>= f) cs = (reader >>= f) ds := by
  change (reader cs >>= fun p => f p.1 p.2) = (reader ds >>= fun p => f p.1 p.2)
  rw [h]

theorem lenientStamp_append (hws : AllBlank ws) (cs : List Char) :
    lenientStamp (ws ++ cs) = lenientStamp cs := by
  have hblanks : blanks (ws ++ cs) = blanks cs := by
    rw [blanks, trimStart, List.dropWhile_append_of_pos hws]
    rfl
  exact bind_congr_front (bind_congr_front hblanks _) _

/-- What the strict reader finds in a text without the blanks around it, the lenient one finds in
the text as it is. -/
theorem parseLenient_of_strict (h : parseStrict (trim cs) = .ok t) : parseLenient cs = .ok t := by
  obtain ⟨ws, ws', hws, hws', hcs⟩ := exists_append_trim cs
  obtain ⟨s, rest, htakes, hrest, ht⟩ := complete_eq_ok_iff.mp h
  obtain rfl := List.isEmpty_iff.mp hrest
  have htaken : Takes lenientStamp (trim cs ++ ws') s ws' := covers_stamp _ _ _ _ hws' htakes
  refine complete_eq_ok_iff.mpr ⟨s, ws', ?_, List.all_eq_true.mpr hws', ht⟩
  rw [hcs, List.append_assoc, Takes, lenientStamp_append hws]
  exact htaken

/-- A timestamp looks like no option: it begins with a digit, or with a blank before it. -/
theorem ne_cons_of_strict (h : parseStrict (trim cs) = .ok t) (tail : List Char) :
    cs ≠ '-' :: tail := by
  intro hdash
  obtain ⟨ws, ws', hws, -, hcs⟩ := exists_append_trim cs
  obtain ⟨s, rest, htakes, -, -⟩ := complete_eq_ok_iff.mp h
  obtain ⟨_, mid, hyear, -⟩ := exists_takes_of_bind htakes
  obtain ⟨ds, hdigit, hlength, -, htrim⟩ := exists_digits_of_takes_number hyear
  rw [htrim, hdash] at hcs
  cases ws with
  | nil =>
    rw [List.nil_append, List.append_assoc] at hcs
    exact absurd (isDigit_of_append_eq_cons hdigit (by omega) hcs.symm) (by decide)
  | cons c ws =>
    obtain ⟨rfl, -⟩ := List.cons.inj hcs
    exact absurd (hws '-' List.mem_cons_self) (by decide)

end Timestamp

end WalletRecovery
