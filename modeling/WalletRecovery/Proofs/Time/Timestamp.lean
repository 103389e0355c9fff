import WalletRecovery.Proofs.Text.Reader
import WalletRecovery.Proofs.Time.Calendar
import WalletRecovery.Time.Timestamp

/-! # Stored timestamps read back

Every instant is read back from the timestamp under which it is stored: years of any sign and
length, fractions of any precision, and leap seconds. -/

namespace WalletRecovery

namespace Scan

open Text

variable {cs ds rest : List Char}

/-- All digits in front are taken, and so are all that are allowed. -/
theorem takes_number {least most : ℕ} (hdigit : ∀ c ∈ ds, Numeral.isDigit c = true)
    (hleast : least ≤ ds.length) (hmost : ds.length ≤ most)
    (hstop : ds.length = most ∨ StopsDigits rest) :
    Takes (number least most) (ds ++ rest) (Numeral.ofDecimal ds) rest := by
  have htaken : ((ds ++ rest).take most).takeWhile Numeral.isDigit = ds := by
    rw [List.take_append, List.take_of_length_le hmost, List.takeWhile_append_of_pos hdigit]
    rcases hstop with hfull | hstop
    · rw [hfull, Nat.sub_self, List.take_zero]
      exact List.append_nil ds
    · rw [hstop.take]
      exact List.append_nil ds
  have hlength : ¬ (ds ++ rest).length < least := by
    rw [List.length_append]
    omega
  rw [Takes, number, htaken, if_neg hlength, if_neg (by omega), List.drop_left]
  rfl

theorem takes_mark (c : Char) (cs : List Char) : Takes (mark c) (c :: cs) () cs :=
  if_pos rfl

theorem takes_blanks {c : Char} (h : Text.isBlank c = false) (cs : List Char) :
    Takes blanks (c :: cs) () (c :: cs) := by
  rw [Takes, blanks, Text.trimStart, List.dropWhile_cons_of_neg (by simp [h])]
  rfl

theorem isBlank_of_isDigit {c : Char} (h : Numeral.isDigit c = true) : Text.isBlank c = false := by
  simp only [Numeral.isDigit, Bool.and_eq_true, decide_eq_true_eq] at h
  simp only [Text.isBlank, Bool.or_eq_false_iff, Bool.and_eq_false_iff, decide_eq_false_iff_not,
    beq_eq_false_iff_ne]
  omega

theorem takes_blanks_of_digits (hdigit : ∀ c ∈ ds, Numeral.isDigit c = true)
    (hlength : 0 < ds.length) (rest : List Char) :
    Takes blanks (ds ++ rest) () (ds ++ rest) := by
  obtain ⟨c, ds, rfl⟩ := List.exists_cons_of_length_pos hlength
  exact takes_blanks (isBlank_of_isDigit (hdigit c List.mem_cons_self)) _

theorem takes_field {low high n : ℕ} (hlow : low ≤ n) (hhigh : n ≤ high) (hlt : n < 100)
    (rest : List Char) : Takes (field low high) (Numeral.padded 2 n ++ rest) n rest := by
  have hdigit : ∀ c ∈ Numeral.padded 2 n, Numeral.isDigit c = true :=
    fun c => Numeral.isDigit_of_mem_padded
  have hlength : (Numeral.padded 2 n).length = 2 := Numeral.length_padded hlt
  refine (takes_blanks_of_digits hdigit (by omega) rest).bind ?_
  have hnumber : Takes (number 1 2) (Numeral.padded 2 n ++ rest) _ rest :=
    takes_number hdigit (by omega) hlength.le (Or.inl hlength)
  refine hnumber.bind ?_
  rw [Numeral.ofDecimal_padded, if_pos ⟨hlow, hhigh⟩]
  exact takes_pure n rest

theorem takes_year_bounds {y : ℤ} (h : Date.firstYear ≤ y ∧ y ≤ Date.lastYear) (cs : List Char) :
    Takes (if -0x80000000 ≤ y ∧ y < 0x80000000 then pure y else throw .outOfRange : Scan ℤ)
      cs y cs := by
  obtain ⟨hlow, hhigh⟩ := h
  rw [Date.firstYear] at hlow
  rw [Date.lastYear] at hhigh
  rw [if_pos ⟨by omega, by omega⟩]
  exact takes_pure y cs

/-- Every year is read back, with a sign where it is written with one. -/
theorem takes_year {y : ℤ} (h : Date.firstYear ≤ y ∧ y ≤ Date.lastYear) (hstop : StopsDigits rest) :
    Takes year (Instant.yearChars y ++ rest) y rest := by
  have hsigned (n : ℕ) : Takes (number 1 (Numeral.padded 4 n ++ rest).length)
      (Numeral.padded 4 n ++ rest) n rest := by
    have hwidth := Numeral.le_length_padded 4 n
    have hnumber : Takes (number 1 (Numeral.padded 4 n ++ rest).length)
        (Numeral.padded 4 n ++ rest) _ rest :=
      takes_number (fun c => Numeral.isDigit_of_mem_padded) (by omega) (by simp) (Or.inr hstop)
    rwa [Numeral.ofDecimal_padded] at hnumber
  rw [Instant.yearChars]
  split
  · next hplain =>
    have hdigit : ∀ c ∈ Numeral.padded 4 y.toNat, Numeral.isDigit c = true :=
      fun c => Numeral.isDigit_of_mem_padded
    have hlength : (Numeral.padded 4 y.toNat).length = 4 := Numeral.length_padded (by omega)
    have hnumber : Takes (number 1 4) (Numeral.padded 4 y.toNat ++ rest) _ rest :=
      takes_number hdigit (by omega) hlength.le (Or.inl hlength)
    have hvalue : (y.toNat : ℤ) = y := by omega
    refine (takes_blanks_of_digits hdigit (by omega) rest).bind (Takes.bind rfl ?_)
    dsimp only
    rw [Numeral.ofDecimal_padded] at hnumber
    split
    · next heq => exact absurd (isDigit_of_append_eq_cons hdigit (by omega) heq) (by decide)
    · next heq => exact absurd (isDigit_of_append_eq_cons hdigit (by omega) heq) (by decide)
    · refine hnumber.bind (Takes.bind (takes_pure _ _) ?_)
      rw [hvalue]
      exact takes_year_bounds h rest
  · split
    · next hneg =>
      have hvalue : -(y.natAbs : ℤ) = y := by omega
      refine (takes_blanks (by decide) _).bind (Takes.bind rfl ?_)
      refine Takes.bind rfl ((hsigned y.natAbs).bind (Takes.bind (takes_pure _ _) ?_))
      rw [hvalue]
      exact takes_year_bounds h rest
    · next hpos =>
      have hvalue : (y.natAbs : ℤ) = y := by omega
      refine (takes_blanks (by decide) _).bind (Takes.bind rfl ?_)
      refine Takes.bind rfl ((hsigned y.natAbs).bind (Takes.bind (takes_pure _ _) ?_))
      rw [hvalue]
      exact takes_year_bounds h rest

/-- All digits behind a point are taken, but no more than nine of them count. -/
theorem takes_fraction_point (hdigit : ∀ c ∈ ds, Numeral.isDigit c = true) (hne : ds ≠ [])
    (hstop : StopsDigits rest) :
    Takes fraction ('.' :: (ds ++ rest))
      (Numeral.ofDecimal (ds.take 9) * 10 ^ (9 - (ds.take 9).length)) rest := by
  have htaken : (ds ++ rest).takeWhile Numeral.isDigit = ds := by
    rw [List.takeWhile_append_of_pos hdigit, hstop, List.append_nil]
  have hleft : (ds ++ rest).dropWhile Numeral.isDigit = rest := by
    rw [List.dropWhile_append_of_pos hdigit, hstop.dropWhile]
  rw [Takes, fraction, htaken, hleft, if_neg (by simp [hne]), if_neg hne]
  rfl

theorem takes_fraction_digits (hdigit : ∀ c ∈ ds, Numeral.isDigit c = true) (hpos : 0 < ds.length)
    (hnine : ds.length ≤ 9) (hstop : StopsDigits rest) :
    Takes fraction ('.' :: ds ++ rest) (Numeral.ofDecimal ds * 10 ^ (9 - ds.length)) rest := by
  have htakes := takes_fraction_point hdigit (List.ne_nil_of_length_pos hpos) hstop
  rwa [List.take_of_length_le hnine] at htakes

theorem takes_fraction {nanos : ℕ} (h : nanos < nanosPerSecond) (hstop : StopsDigits rest)
    (hpoint : ∀ cs, rest ≠ '.' :: cs) :
    Takes fraction (Instant.fractionChars nanos ++ rest) nanos rest := by
  have hdigits {width n : ℕ} (hwidth : width < 9) (hn : n < 10 ^ (width + 1))
      (hvalue : n * 10 ^ (9 - (width + 1)) = nanos) :
      Takes fraction ('.' :: Numeral.padded (width + 1) n ++ rest) nanos rest := by
    have hlength := Numeral.length_padded hn
    have htakes := takes_fraction_digits (fun c => Numeral.isDigit_of_mem_padded)
      (show 0 < (Numeral.padded (width + 1) n).length by omega) (by omega) hstop
    rwa [Numeral.ofDecimal_padded, hlength, hvalue] at htakes
  rw [nanosPerSecond] at h
  rw [Instant.fractionChars]
  split
  · next hzero =>
    rw [hzero, List.nil_append, Takes, fraction]
    · rfl
    · exact hpoint
  split
  · next hmillis => exact hdigits (show 2 < 9 by decide) (by omega) (by omega)
  split
  · next hmicros => exact hdigits (show 5 < 9 by decide) (by omega) (by omega)
  · exact hdigits (show 8 < 9 by decide) h (Nat.mul_one nanos)

theorem length_le_byteLength (cs : List Char) : cs.length ≤ byteLength cs := by
  induction cs with
  | nil => exact Nat.le_refl 0
  | cons c cs ih =>
    have hpos := c.utf8Size_pos
    rw [List.length_cons, byteLength]
    omega

theorem takes_twoDigits_cons {a b : Char} (ha : Numeral.isDigit a = true)
    (hb : Numeral.isDigit b = true) (rest : List Char) :
    Takes twoDigits (a :: b :: rest) (Numeral.ofDecimal [a, b]) rest := by
  have hlong : 2 ≤ byteLength (a :: b :: rest) :=
    Nat.le_trans (Nat.le_add_left 2 rest.length) (length_le_byteLength (a :: b :: rest))
  rw [Takes, twoDigits, if_neg (by omega), ha, hb]
  rfl

theorem offset_cons {c : Char} (hZ : c ≠ 'Z') (hz : c ≠ 'z') (colon : Scan Unit)
    (cs : List Char) : offset colon (c :: cs) = signedOffset colon (c :: cs) := by
  rw [offset]
  · rintro _ ⟨⟩
    exact hZ rfl
  · rintro _ ⟨⟩
    exact hz rfl

theorem takes_separator {c : Char} (h : c = 'T' ∨ c = 't' ∨ c = ' ') (cs : List Char) :
    Takes separator (c :: cs) () cs := by
  rw [Takes, separator, if_pos h]
  rfl

end Scan

namespace Timestamp

open Scan Text

theorem takes_spacedMark {c : Char} (h : Text.isBlank c = false) (cs : List Char) :
    Takes (spacedMark c) (c :: cs) () cs :=
  (takes_blanks h cs).bind (takes_mark c cs)

/-- A reader that takes a whole text gives the instant of its fields. -/
theorem complete_eq_ok_iff {reader : Scan Stamp} {tail : List Char → Bool} {cs : List Char}
    {t : Instant} :
    complete reader tail cs = .ok t ↔
      ∃ s rest, Takes reader cs s rest ∧ tail rest = true ∧ s.toInstant = .ok t := by
  constructor
  · intro h
    rw [complete] at h
    rcases hr : reader cs with e | ⟨s, rest⟩
    · rw [hr] at h
      cases h
    · rw [hr] at h
      change (if tail rest = true then s.toInstant else throw .trailing) = .ok t at h
      split at h
      · next htail => exact ⟨s, rest, hr, htail, h⟩
      · cases h
  · rintro ⟨s, rest, hr, htail, ht⟩
    rw [Takes] at hr
    rw [complete, hr]
    change (if tail rest = true then s.toInstant else throw .trailing) = .ok t
    rw [if_pos htail, ht]

end Timestamp

namespace Instant

open Scan Text

def stamp (t : Instant) : Stamp where
  date := t.date
  hour := t.secondOfDay / 3600
  minute := t.secondOfDay / 60 % 60
  second := t.second
  nanos := t.nanos % nanosPerSecond

theorem secondOfDay_lt (t : Instant) : t.secondOfDay < 86400 := by
  rw [secondOfDay]
  omega

theorem second_le (t : Instant) : t.second ≤ 60 := by
  have hnanos := t.nanos_lt
  have hleap := t.leap
  rw [nanosPerSecond] at hnanos hleap
  rw [second, secondOfDay, nanosPerSecond]
  omega

/-- The fields of an instant are read one by one, whatever letter parts the date from the clock and
however universal time is named. -/
theorem takes_lenientStamp (t : Instant) {mark : Char} {ending rest : List Char}
    (hmark : mark = 'T' ∨ mark = 't' ∨ mark = ' ') (hstop : StopsDigits ending)
    (hpoint : ∀ cs, ending ≠ '.' :: cs) (hblanks : Takes blanks ending () rest)
    (hoffset : Takes Timestamp.lenientOffset rest 0 []) :
    Takes Timestamp.lenientStamp (t.dateChars ++ mark :: t.clockChars ++ ending) t.stamp [] := by
  have hday := t.secondOfDay_lt
  have hsecond := t.second_le
  have hdate := t.date_exists.day_le
  obtain ⟨hmonth, hmonth', hdate', -⟩ := t.date_exists
  have hcs : t.dateChars ++ mark :: t.clockChars ++ ending =
      yearChars t.date.year ++ '-' :: (Numeral.padded 2 t.date.month ++ '-' ::
      (Numeral.padded 2 t.date.day ++ mark :: (Numeral.padded 2 (t.secondOfDay / 3600) ++ ':' ::
      (Numeral.padded 2 (t.secondOfDay / 60 % 60) ++ ':' :: (Numeral.padded 2 t.second ++
      (fractionChars (t.nanos % nanosPerSecond) ++ ending)))))) := by
    simp [dateChars, clockChars]
  rw [hcs]
  refine (takes_year t.year_date_bounds (stopsDigits_cons (by decide) _)).bind ?_
  refine (Timestamp.takes_spacedMark (by decide) _).bind ?_
  refine (takes_field hmonth hmonth' (by omega) _).bind ?_
  refine (Timestamp.takes_spacedMark (by decide) _).bind ?_
  refine (takes_field hdate' hdate (by omega) _).bind ?_
  refine (takes_separator hmark _).bind ?_
  refine (takes_field (Nat.zero_le _) (by omega) (by omega) _).bind ?_
  refine (Timestamp.takes_spacedMark (by decide) _).bind ?_
  refine (takes_field (Nat.zero_le _) (by omega) (by omega) _).bind ?_
  refine (Timestamp.takes_spacedMark (by decide) _).bind ?_
  refine (takes_field (Nat.zero_le _) hsecond (by omega) _).bind ?_
  refine (takes_fraction (Nat.mod_lt _ (by decide)) hstop hpoint).bind ?_
  exact hblanks.bind (hoffset.bind (takes_pure _ _))

theorem toInstant_stamp (t : Instant) : t.stamp.toInstant = .ok t := by
  have hnanos := t.nanos_lt
  have hleap := t.leap
  have hexists : t.stamp.date.Exists ∧ Date.firstYear ≤ t.stamp.date.year ∧
      t.stamp.date.year ≤ Date.lastYear ∧ t.stamp.offset.natAbs < 24 * 60 :=
    ⟨t.date_exists, t.year_date_bounds.1, t.year_date_bounds.2, show (0 : ℤ).natAbs < _ by decide⟩
  have hclock : t.stamp.date.dayNumber * 86400 + ((t.stamp.hour * 3600 +
      (t.stamp.minute - t.stamp.offset) * 60 + (min t.stamp.second 59 : ℕ) : ℤ)) = t.seconds := by
    rw [nanosPerSecond] at hnanos hleap
    simp only [stamp, dayNumber_date, second, secondOfDay, nanosPerSecond]
    omega
  have hparts : t.stamp.nanos + (if t.stamp.second = 60 then nanosPerSecond else 0) = t.nanos := by
    rw [nanosPerSecond] at hnanos hleap
    by_cases hsixty : t.stamp.second = 60
    · rw [if_pos hsixty]
      simp only [stamp, second, secondOfDay, nanosPerSecond] at hsixty ⊢
      omega
    · rw [if_neg hsixty]
      simp only [stamp, second, secondOfDay, nanosPerSecond] at hsixty ⊢
      omega
  rw [Stamp.toInstant, if_pos hexists]
  dsimp only
  rw [hclock, hparts, ofParts?_seconds_nanos]

theorem parseLenient_of_takes {t : Instant} {cs : List Char}
    (h : Takes Timestamp.lenientStamp cs t.stamp []) : Timestamp.parseLenient cs = .ok t :=
  Timestamp.complete_eq_ok_iff.mpr ⟨t.stamp, [], h, rfl, t.toInstant_stamp⟩

/-- An instant is read back from the timestamp under which it is stored. -/
theorem parseLenient_rfc3339 (t : Instant) :
    Timestamp.parseLenient t.rfc3339.toList = .ok t := by
  rw [rfc3339, String.toList_ofList]
  apply parseLenient_of_takes
  exact t.takes_lenientStamp (Or.inl rfl) (stopsDigits_cons (by decide) []) (by simp)
    (takes_blanks (by decide) []) rfl

/-- An instant is read back from the text that is shown of it. -/
theorem parseLenient_text (t : Instant) : Timestamp.parseLenient t.text.toList = .ok t := by
  rw [text, String.toList_ofList]
  apply parseLenient_of_takes
  exact t.takes_lenientStamp (Or.inr (Or.inr rfl)) (stopsDigits_cons (by decide) _) (by simp)
    rfl rfl

end Instant

end WalletRecovery
