import WalletRecovery.Proofs.Text.Blank
import WalletRecovery.Proofs.Time.Timestamp

/-! # Instants in RFC 3339

An instant has many texts: its clock may be ahead of universal time or behind it, the date and the
time of day are separated in one of three ways, and the fraction of a second can have any number of
digits. The strict reader takes the fields from all of them. -/

namespace WalletRecovery

namespace Instant

/-- The fields that a clock shows at an instant which is some minutes ahead of universal time. -/
def stampAt (t : Instant) (offset : ℤ) : Stamp :=
  let clock := t.seconds + 60 * offset
  { date := Date.ofDayNumber (clock / 86400)
    hour := (clock % 86400 / 3600).toNat
    minute := (clock % 3600 / 60).toNat
    second := (clock % 60).toNat + t.nanos / nanosPerSecond
    nanos := t.nanos % nanosPerSecond
    offset := offset }

/-- Offsets carry over hours, days and years, and never out of a leap second. -/
theorem toInstant_stampAt {t : Instant} {offset : ℤ} (hoffset : offset.natAbs < 24 * 60)
    (hyear : Date.firstYear ≤ (t.stampAt offset).date.year ∧
      (t.stampAt offset).date.year ≤ Date.lastYear) :
    (t.stampAt offset).toInstant = .ok t := by
  have hnanos := t.nanos_lt
  have hleap := t.leap
  obtain ⟨hexists, hday⟩ := Date.ofDayNumber_exists ((t.seconds + 60 * offset) / 86400)
  rw [nanosPerSecond] at hnanos hleap
  have hclock : (t.stampAt offset).date.dayNumber * 86400 +
      (((t.stampAt offset).hour * 3600 +
        ((t.stampAt offset).minute - (t.stampAt offset).offset) * 60 +
        (min (t.stampAt offset).second 59 : ℕ) : ℤ)) = t.seconds := by
    simp only [stampAt, nanosPerSecond, hday]
    omega
  have hparts : (t.stampAt offset).nanos +
      (if (t.stampAt offset).second = 60 then nanosPerSecond else 0) = t.nanos := by
    by_cases hsixty : (t.stampAt offset).second = 60
    · rw [if_pos hsixty]
      simp only [stampAt, nanosPerSecond] at hsixty ⊢
      omega
    · rw [if_neg hsixty]
      simp only [stampAt, nanosPerSecond] at hsixty ⊢
      omega
  rw [Stamp.toInstant, if_pos ⟨hexists, hyear.1, hyear.2, hoffset⟩]
  dsimp only
  rw [hclock, hparts, ofParts?_seconds_nanos]

end Instant

namespace Rfc3339

open Scan Text

variable {rest : List Char}

def dateChars (d : Date) : List Char :=
  Numeral.padded 4 d.year.toNat ++ '-' :: (Numeral.padded 2 d.month ++ '-' ::
    Numeral.padded 2 d.day)

/-- How a fraction of a second is written: any number of digits, of which those behind the ninth are
ignored, and no fraction if it is zero. -/
inductive Fraction : ℕ → List Char → Prop where
  | none : Fraction 0 []
  | digits {nanos : ℕ} {ds : List Char} : ds ≠ [] → (∀ c ∈ ds, Numeral.isDigit c = true) →
      (ds ++ List.replicate 9 '0').take 9 = Numeral.padded 9 nanos → Fraction nanos ('.' :: ds)

/-- How the offset of a clock is written, in minutes. -/
inductive Zone : ℤ → List Char → Prop where
  | universal {c : Char} : c = 'Z' ∨ c = 'z' → Zone 0 [c]
  | ahead {hours minutes : ℕ} : hours < 24 → minutes < 60 →
      Zone (60 * hours + minutes)
        ('+' :: (Numeral.padded 2 hours ++ ':' :: Numeral.padded 2 minutes))
  | behind {c : Char} {hours minutes : ℕ} : c = '-' ∨ c = '\u2212' → hours < 24 → minutes < 60 →
      Zone (-(60 * hours + minutes))
        (c :: (Numeral.padded 2 hours ++ ':' :: Numeral.padded 2 minutes))

/-- Whether a text is one of those in which fields can be written. -/
inductive Spells (s : Stamp) : List Char → Prop where
  | mk {separator : Char} {fraction zone : List Char} :
      separator = 'T' ∨ separator = 't' ∨ separator = ' ' → Fraction s.nanos fraction →
      Zone s.offset zone →
      Spells s (dateChars s.date ++ separator :: (Numeral.padded 2 s.hour ++ ':' ::
        (Numeral.padded 2 s.minute ++ ':' :: (Numeral.padded 2 s.second ++ (fraction ++ zone)))))

theorem Zone.natAbs_lt {offset : ℤ} {cs : List Char} (h : Zone offset cs) :
    offset.natAbs < 24 * 60 := by
  cases h with
  | universal => decide
  | ahead hh hm => omega
  | behind _ hh hm => omega

/-! ## Pieces -/

theorem takes_numberWithin {low high n : ℕ} (hlow : low ≤ n) (hhigh : n ≤ high) (hlt : n < 100)
    (rest : List Char) :
    Takes (numberWithin 2 2 low high) (Numeral.padded 2 n ++ rest) n rest := by
  have hlength : (Numeral.padded 2 n).length = 2 := Numeral.length_padded hlt
  have hnumber : Takes (number 2 2) (Numeral.padded 2 n ++ rest) _ rest :=
    takes_number (fun c => Numeral.isDigit_of_mem_padded) hlength.ge hlength.le (Or.inl hlength)
  refine hnumber.bind ?_
  rw [Numeral.ofDecimal_padded, if_pos ⟨hlow, hhigh⟩]
  exact takes_pure n rest

theorem Fraction.takes {nanos : ℕ} {cs : List Char} (h : Fraction nanos cs)
    (hstop : StopsDigits rest) (hpoint : ∀ cs, rest ≠ '.' :: cs) :
    Takes fraction (cs ++ rest) nanos rest := by
  cases h with
  | none =>
    rw [List.nil_append, Takes, fraction]
    · rfl
    · exact hpoint
  | @digits nanos ds hne hdigit hvalue =>
    -- the digits that count, filled up with zeros, are those of the number
    have hfilled : ds.take 9 ++ List.replicate (9 - (ds.take 9).length) '0' =
        Numeral.padded 9 nanos := by
      rw [← hvalue, List.take_append, List.take_replicate, List.length_take]
      congr 2
      omega
    have hnanos := Numeral.ofDecimal_append_zeros (ds.take 9) (9 - (ds.take 9).length)
    rw [hfilled, Numeral.ofDecimal_padded] at hnanos
    rw [hnanos]
    exact takes_fraction_point hdigit hne hstop

theorem takes_twoDigits {n : ℕ} (hlt : n < 100) (rest : List Char) :
    Takes twoDigits (Numeral.padded 2 n ++ rest) n rest := by
  have hlength : (Numeral.padded 2 n).length = 2 := Numeral.length_padded hlt
  obtain ⟨a, b, hab⟩ := List.length_eq_two.mp hlength
  have hdigit : ∀ c ∈ [a, b], Numeral.isDigit c = true := by
    intro c hc
    rw [← hab] at hc
    exact Numeral.isDigit_of_mem_padded hc
  have htakes := takes_twoDigits_cons (hdigit a (by simp)) (hdigit b (by simp)) rest
  rw [← hab, Numeral.ofDecimal_padded] at htakes
  rw [hab]
  exact htakes

theorem takes_signedOffset {hours minutes : ℕ} (hh : hours < 24) (hm : minutes < 60) {c : Char}
    {factor : ℤ} (hsign : ∀ cs, Takes sign (c :: cs) factor cs) :
    Takes (signedOffset (mark ':'))
      (c :: (Numeral.padded 2 hours ++ ':' :: Numeral.padded 2 minutes))
      (factor * (60 * hours + minutes)) [] := by
  refine (hsign _).bind ((takes_twoDigits (by omega) _).bind ((takes_mark ':' _).bind ?_))
  have hminutes := takes_twoDigits (n := minutes) (by omega) []
  rw [List.append_nil] at hminutes
  refine hminutes.bind ?_
  rw [if_pos hm]
  exact takes_pure _ []

theorem Zone.takes {offset : ℤ} {cs : List Char} (h : Zone offset cs) :
    Takes (Scan.offset (mark ':')) cs offset [] := by
  cases h with
  | universal hc =>
    rcases hc with rfl | rfl
    · rfl
    · rfl
  | ahead hh hm =>
    have hplus (cs : List Char) : Takes sign ('+' :: cs) 1 cs := rfl
    have htakes := takes_signedOffset hh hm hplus
    rw [one_mul] at htakes
    rw [Takes, offset_cons (by decide) (by decide)]
    exact htakes
  | behind hc hh hm =>
    have hbehind (c : Char) (hsign : ∀ cs, Takes sign (c :: cs) (-1) cs) :=
      takes_signedOffset hh hm hsign
    rw [neg_one_mul] at hbehind
    rcases hc with rfl | rfl
    · rw [Takes, offset_cons (by decide) (by decide)]
      exact hbehind '-' fun _ => rfl
    · rw [Takes, offset_cons (by decide) (by decide)]
      exact hbehind '\u2212' fun _ => rfl

theorem Zone.stops {offset : ℤ} {cs : List Char} (h : Zone offset cs) :
    StopsDigits cs ∧ ∀ ds, cs ≠ '.' :: ds := by
  cases h with
  | universal hc =>
    rcases hc with rfl | rfl
    · exact ⟨rfl, by simp⟩
    · exact ⟨rfl, by simp⟩
  | ahead => exact ⟨rfl, by simp⟩
  | behind hc =>
    rcases hc with rfl | rfl
    · exact ⟨rfl, by simp⟩
    · exact ⟨rfl, by simp⟩

/-! ## Whole texts -/

structure Regular (s : Stamp) : Prop where
  year : 0 ≤ s.date.year ∧ s.date.year ≤ 9999
  month : 1 ≤ s.date.month ∧ s.date.month ≤ 12
  day : 1 ≤ s.date.day ∧ s.date.day ≤ 31
  hour : s.hour ≤ 23
  minute : s.minute ≤ 59
  second : s.second ≤ 60

theorem regular_stampAt {t : Instant} {offset : ℤ}
    (hyear : 0 ≤ (t.stampAt offset).date.year ∧ (t.stampAt offset).date.year ≤ 9999) :
    Regular (t.stampAt offset) := by
  have hexists := (Date.ofDayNumber_exists ((t.seconds + 60 * offset) / 86400)).1
  have hday := hexists.day_le
  obtain ⟨hmonth, hmonth', hday', -⟩ := hexists
  have hnanos := t.nanos_lt
  have hleap := t.leap
  rw [nanosPerSecond] at hnanos hleap
  refine ⟨hyear, ⟨hmonth, hmonth'⟩, ⟨hday', hday⟩, ?_, ?_, ?_⟩
  · simp only [Instant.stampAt]
    omega
  · simp only [Instant.stampAt]
    omega
  · simp only [Instant.stampAt, nanosPerSecond]
    omega

theorem Spells.takes {s : Stamp} {cs : List Char} (h : Spells s cs) (hs : Regular s) :
    Takes Timestamp.strictStamp cs s [] := by
  have hlength : (Numeral.padded 4 s.date.year.toNat).length = 4 := by
    have hyear := hs.year
    exact Numeral.length_padded (by omega)
  have hcast : (s.date.year.toNat : ℤ) = s.date.year := Int.toNat_of_nonneg hs.year.1
  have hday := hs.day
  have hminute := hs.minute
  have hsecond := hs.second
  cases h with
  | @mk separator fraction zone hseparator hfraction hzone =>
    simp only [dateChars, List.append_assoc, List.cons_append]
    have hyear (rest : List Char) : Takes (number 4 4)
        (Numeral.padded 4 s.date.year.toNat ++ rest) s.date.year.toNat rest := by
      have htakes : Takes (number 4 4) (Numeral.padded 4 s.date.year.toNat ++ rest) _ rest :=
        takes_number (fun c => Numeral.isDigit_of_mem_padded) hlength.ge hlength.le
          (Or.inl hlength)
      rwa [Numeral.ofDecimal_padded] at htakes
    refine (hyear _).bind ((takes_mark '-' _).bind ?_)
    refine (takes_numberWithin hs.month.1 hs.month.2 (by have := hs.month; omega) _).bind ?_
    refine (takes_mark '-' _).bind ?_
    refine (takes_numberWithin hday.1 hday.2 (by omega) _).bind ?_
    refine (takes_separator hseparator _).bind ?_
    refine (takes_numberWithin (Nat.zero_le _) hs.hour (by have := hs.hour; omega) _).bind ?_
    refine (takes_mark ':' _).bind ?_
    refine (takes_numberWithin (Nat.zero_le _) hminute (by omega) _).bind ?_
    refine (takes_mark ':' _).bind ?_
    refine (takes_numberWithin (Nat.zero_le _) hsecond (by omega) _).bind ?_
    refine (hfraction.takes hzone.stops.1 hzone.stops.2).bind (hzone.takes.bind ?_)
    rw [hcast]
    exact takes_pure s []

/-- The strict reader finds the instant in each of its texts. -/
theorem parseStrict_of_spells {t : Instant} {offset : ℤ} {cs : List Char}
    (h : Spells (t.stampAt offset) cs)
    (hyear : 0 ≤ (t.stampAt offset).date.year ∧ (t.stampAt offset).date.year ≤ 9999) :
    Timestamp.parseStrict cs = .ok t := by
  have hcalendar : Date.firstYear ≤ (t.stampAt offset).date.year ∧
      (t.stampAt offset).date.year ≤ Date.lastYear := by
    rw [Date.firstYear, Date.lastYear]
    omega
  have hoffset : offset.natAbs < 24 * 60 := by
    cases h with
    | mk _ _ hzone => exact hzone.natAbs_lt
  exact Timestamp.complete_eq_ok_iff.mpr ⟨_, [], h.takes (regular_stampAt hyear), rfl,
    Instant.toInstant_stampAt hoffset hcalendar⟩

theorem exists_zone {offset : ℤ} (h : offset.natAbs < 24 * 60) : ∃ cs, Zone offset cs := by
  rcases Int.le_total 0 offset with hle | hle
  · obtain ⟨hours, minutes, hhours, hminutes, rfl⟩ :
        ∃ hours minutes : ℕ, hours < 24 ∧ minutes < 60 ∧ 60 * hours + minutes = offset :=
      ⟨offset.toNat / 60, offset.toNat % 60, by omega, by omega, by omega⟩
    exact ⟨_, .ahead hhours hminutes⟩
  · obtain ⟨hours, minutes, hhours, hminutes, rfl⟩ :
        ∃ hours minutes : ℕ, hours < 24 ∧ minutes < 60 ∧ -(60 * hours + minutes) = offset :=
      ⟨(-offset).toNat / 60, (-offset).toNat % 60, by omega, by omega, by omega⟩
    exact ⟨_, .behind (Or.inl (Eq.refl '-')) hhours hminutes⟩

/-- An instant has a text on the clock of every offset. -/
theorem exists_spells (t : Instant) {offset : ℤ} (h : offset.natAbs < 24 * 60) :
    ∃ cs, Spells (t.stampAt offset) cs := by
  obtain ⟨zone, hzone⟩ := exists_zone h
  have hlt : t.nanos % nanosPerSecond < 10 ^ 9 := Nat.mod_lt _ (by decide)
  have hlength : (Numeral.padded 9 (t.nanos % nanosPerSecond)).length = 9 :=
    Numeral.length_padded hlt
  have hfraction : Fraction (t.nanos % nanosPerSecond)
      ('.' :: Numeral.padded 9 (t.nanos % nanosPerSecond)) := by
    refine .digits ?_ (fun c => Numeral.isDigit_of_mem_padded) (List.take_left' hlength)
    exact List.ne_nil_of_length_pos (by omega)
  exact ⟨_, .mk (Or.inl rfl) hfraction hzone⟩

theorem noBlank_padded (width n : ℕ) : NoBlank (Numeral.padded width n) :=
  fun _ hc => isBlank_of_isDigit (Numeral.isDigit_of_mem_padded hc)

theorem noBlank_dateChars (d : Date) : NoBlank (dateChars d) :=
  (noBlank_padded 4 _).append <| .cons (by decide) <|
    (noBlank_padded 2 _).append <| .cons (by decide) (noBlank_padded 2 _)

theorem Zone.noBlank {offset : ℤ} {cs : List Char} (h : Zone offset cs) : NoBlank cs := by
  have hclock (hours minutes : ℕ) :
      NoBlank (Numeral.padded 2 hours ++ ':' :: Numeral.padded 2 minutes) :=
    (noBlank_padded 2 _).append (.cons (by decide) (noBlank_padded 2 _))
  cases h with
  | universal hc =>
    rcases hc with rfl | rfl
    · exact .cons (by decide) (by simp [NoBlank])
    · exact .cons (by decide) (by simp [NoBlank])
  | ahead => exact .cons (by decide) (hclock _ _)
  | behind hc =>
    rcases hc with rfl | rfl
    · exact .cons (by decide) (hclock _ _)
    · exact .cons (by decide) (hclock _ _)

theorem Zone.ne_nil {offset : ℤ} {cs : List Char} (h : Zone offset cs) : cs ≠ [] := by
  cases h with
  | universal | ahead | behind => exact List.cons_ne_nil _ _

theorem Spells.enclosed {s : Stamp} {cs : List Char} (h : Spells s cs) : Enclosed cs := by
  cases h with
  | @mk separator fraction zone _ _ hzone =>
    have hdate : dateChars s.date ≠ [] := by simp [dateChars]
    have henclosed := enclosed_append (noBlank_dateChars s.date) hdate hzone.noBlank hzone.ne_nil
      (separator :: (Numeral.padded 2 s.hour ++ ':' :: (Numeral.padded 2 s.minute ++ ':' ::
        (Numeral.padded 2 s.second ++ fraction))))
    simpa only [List.append_assoc, List.cons_append] using henclosed

end Rfc3339

end WalletRecovery
