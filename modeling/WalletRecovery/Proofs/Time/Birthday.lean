import WalletRecovery.Proofs.Time.Rfc3339
import WalletRecovery.Proofs.Time.Strict
import WalletRecovery.Time.Birthday

/-! # Birthdays read back

A birthday is read back from every text in RFC 3339, and a date stands for its first moment. A text
that looks like a date is refused if there is no such date. -/

namespace WalletRecovery

namespace Date

theorem daysBeforeMonth_le {leap : Bool} {month : ℕ} (h : month ≤ 13) :
    daysBeforeMonth leap month ≤ 365 + leap.toNat := by
  have hall : ∀ leap : Bool, ∀ month < 14, daysBeforeMonth leap month ≤ 365 + leap.toNat := by decide
  exact hall leap month (Nat.lt_succ_of_le h)

theorem Exists.dayNumber_bounds {d : Date} (h : d.Exists) :
    firstDay d.year ≤ d.dayNumber ∧ d.dayNumber < firstDay (d.year + 1) := by
  obtain ⟨-, hmonth, hday, hday'⟩ := h
  have hnext : daysBeforeMonth (isLeap d.year) (d.month + 1) ≤ 365 + (isLeap d.year).toNat :=
    daysBeforeMonth_le (by omega)
  rw [firstDay_succ, yearLength_eq, dayNumber]
  rw [monthLength] at hday'
  omega

end Date

namespace Birthday

open Scan Text Rfc3339

variable {cs rest : List Char} {d : Date} {t : Instant}

/-! ## The two formats -/

/-- A timestamp is longer than a date. -/
theorem length_of_takes_strictStamp {s : Stamp} (h : Takes Timestamp.strictStamp cs s rest) :
    11 ≤ cs.length := by
  -- first what is taken, piece by piece, then what was written there, from the last piece on
  obtain ⟨_, cs₁, hyear, h⟩ := exists_takes_of_bind h
  obtain ⟨_, cs₂, hmark, h⟩ := exists_takes_of_bind h
  obtain ⟨_, cs₃, hmonth, h⟩ := exists_takes_of_bind h
  obtain ⟨_, cs₄, hmark', h⟩ := exists_takes_of_bind h
  obtain ⟨_, cs₅, hday, h⟩ := exists_takes_of_bind h
  obtain ⟨_, cs₆, hseparator, -⟩ := exists_takes_of_bind h
  obtain ⟨_, -, rfl⟩ := exists_cons_of_takes_separator hseparator
  obtain ⟨-, day, -, hdayLength, -, rfl⟩ := exists_digits_of_takes_numberWithin hday
  obtain rfl := eq_cons_of_takes_mark hmark'
  obtain ⟨-, month, -, hmonthLength, -, rfl⟩ := exists_digits_of_takes_numberWithin hmonth
  obtain rfl := eq_cons_of_takes_mark hmark
  obtain ⟨year, -, hyearLength, -, rfl⟩ := exists_digits_of_takes_number hyear
  simp only [List.length_append, List.length_cons]
  omega

theorem eq_of_takes_field {low high n m : ℕ} (hlt : n < 100)
    (h : Takes (field low high) (Numeral.padded 2 n ++ rest) m cs) : n = m ∧ rest = cs := by
  have hdigit : ∀ c ∈ Numeral.padded 2 n, Numeral.isDigit c = true :=
    fun c => Numeral.isDigit_of_mem_padded
  have hlength : (Numeral.padded 2 n).length = 2 := Numeral.length_padded hlt
  obtain ⟨_, _, hblanks, h⟩ := exists_takes_of_bind h
  obtain ⟨-, rfl⟩ := (takes_blanks_of_digits hdigit (by omega) rest).unique hblanks
  obtain ⟨_, _, hnumber, h⟩ := exists_takes_of_bind h
  have hall : Takes (number 1 2) (Numeral.padded 2 n ++ rest) _ rest :=
    takes_number hdigit (by omega) hlength.le (Or.inl hlength)
  obtain ⟨rfl, rfl⟩ := hall.unique hnumber
  rw [Numeral.ofDecimal_padded] at h
  split at h
  · exact Prod.mk.inj (Except.ok.inj h)
  · cases h

theorem takes_year_dateChars (hyear : 0 ≤ d.year ∧ d.year ≤ 9999) :
    Takes year (dateChars d) d.year
      ('-' :: (Numeral.padded 2 d.month ++ '-' :: Numeral.padded 2 d.day)) := by
  have hcalendar : Date.firstYear ≤ d.year ∧ d.year ≤ Date.lastYear := by
    rw [Date.firstYear, Date.lastYear]
    omega
  have htakes := takes_year hcalendar (stopsDigits_cons (c := '-') (by decide)
    (Numeral.padded 2 d.month ++ '-' :: Numeral.padded 2 d.day))
  rwa [Instant.yearChars, if_pos hyear] at htakes

theorem takes_dateStamp (hyear : 0 ≤ d.year ∧ d.year ≤ 9999) (h : d.Exists) :
    Takes dateStamp (dateChars d) { date := d } [] := by
  have hday := h.day_le
  obtain ⟨hmonth, hmonth', hday', -⟩ := h
  refine (takes_year_dateChars hyear).bind ((takes_mark '-' _).bind ?_)
  refine (takes_field hmonth hmonth' (by omega) _).bind ((takes_mark '-' _).bind ?_)
  have htakes := takes_field hday' hday (by omega) []
  rw [List.append_nil] at htakes
  exact htakes.bind (takes_pure _ [])

/-- The reader of dates finds no other date in the text of one, whether it exists or not. -/
theorem date_of_takes_dateStamp {s : Stamp} (hyear : 0 ≤ d.year ∧ d.year ≤ 9999)
    (hmonth : d.month < 100) (hday : d.day < 100) (h : Takes dateStamp (dateChars d) s rest) :
    s.date = d := by
  obtain ⟨_, _, hy, h⟩ := exists_takes_of_bind h
  obtain ⟨rfl, rfl⟩ := (takes_year_dateChars hyear).unique hy
  obtain ⟨_, _, hmark, h⟩ := exists_takes_of_bind h
  obtain ⟨-, rfl⟩ := (takes_mark '-' _).unique hmark
  obtain ⟨_, _, hm, h⟩ := exists_takes_of_bind h
  obtain ⟨rfl, rfl⟩ := eq_of_takes_field hmonth hm
  obtain ⟨_, _, hmark, h⟩ := exists_takes_of_bind h
  obtain ⟨-, rfl⟩ := (takes_mark '-' _).unique hmark
  obtain ⟨_, _, hd, h⟩ := exists_takes_of_bind h
  rw [← List.append_nil (Numeral.padded 2 d.day)] at hd
  obtain ⟨rfl, rfl⟩ := eq_of_takes_field hday hd
  rw [← (Prod.mk.inj (Except.ok.inj h)).1]

/-! ## Instants -/

theorem exists_toInstant_date (hyear : 0 ≤ d.year ∧ d.year ≤ 9999) (h : d.Exists) :
    ∃ t : Instant, ({ date := d } : Stamp).toInstant = .ok t ∧
      t.seconds = d.dayNumber * 86400 ∧ t.nanos = 0 := by
  obtain ⟨hfirst, hlast⟩ := h.dayNumber_bounds
  have hcalendar : Date.firstYear ≤ d.year ∧ d.year ≤ Date.lastYear := by
    rw [Date.firstYear, Date.lastYear]
    omega
  have hlow := Date.firstDay_mono hcalendar.1
  have hhigh := Date.firstDay_mono (show d.year + 1 ≤ Date.lastYear + 1 by omega)
  have hleap : nanosPerSecond ≤ 0 → d.dayNumber * 86400 % 60 = 59 :=
    fun hle => absurd hle (by decide)
  let t : Instant := ⟨d.dayNumber * 86400, 0, by rw [Date.dayNumber_newYear]; omega,
    by rw [Date.dayNumber_newYear]; omega, by decide, hleap⟩
  refine ⟨t, ?_, rfl, rfl⟩
  have hparts : Instant.ofParts? (d.dayNumber * 86400) 0 = some t := t.ofParts?_seconds_nanos
  have hzero : (0 : ℤ).natAbs < 24 * 60 := by decide
  rw [Stamp.toInstant, if_pos ⟨h, hcalendar.1, hcalendar.2, hzero⟩]
  simp [hparts]

theorem exists_of_toInstant {s : Stamp} (h : s.toInstant = .ok t) : s.date.Exists := by
  rw [Stamp.toInstant] at h
  split at h
  · next hs => exact hs.1
  · cases h

/-! ## Whole texts -/

theorem parse_of_strict {text : String} (h : Timestamp.parseStrict (trim text.toList) = .ok t) :
    parse text = .ok t := by
  simp only [parse, h]

theorem parse_dateChars {text : String} (hyear : 0 ≤ d.year ∧ d.year ≤ 9999)
    (hmonth : d.month < 100) (hday : d.day < 100) (htext : trim text.toList = dateChars d) :
    parse text = match Timestamp.complete dateStamp (·.isEmpty) (dateChars d) with
      | .ok t => .ok t
      | .error _ => .error ⟨String.ofList (dateChars d)⟩ := by
  have hlength : (dateChars d).length = 10 := by
    have hy : (Numeral.padded 4 d.year.toNat).length = 4 := Numeral.length_padded (by omega)
    have hm : (Numeral.padded 2 d.month).length = 2 := Numeral.length_padded hmonth
    have hd : (Numeral.padded 2 d.day).length = 2 := Numeral.length_padded hday
    simp only [dateChars, List.length_append, List.length_cons, hy, hm, hd]
  rw [parse]
  simp only [htext]
  rcases hstrict : Timestamp.parseStrict (dateChars d) with e | t
  · rfl
  · obtain ⟨_, _, htakes, -, -⟩ := Timestamp.complete_eq_ok_iff.mp hstrict
    have hlong := length_of_takes_strictStamp htakes
    omega

theorem spells_midnight (d : Date) :
    Spells { date := d } (dateChars d ++ "T00:00:00Z".toList) :=
  Spells.mk (s := { date := d }) (Or.inl rfl) .none (.universal (Or.inl rfl))

theorem regular_midnight (hyear : 0 ≤ d.year ∧ d.year ≤ 9999) (h : d.Exists) :
    Regular { date := d } := by
  have hday := h.day_le
  obtain ⟨hmonth, hmonth', hday', -⟩ := h
  exact ⟨hyear, ⟨hmonth, hmonth'⟩, ⟨hday', hday⟩, Nat.zero_le 23, Nat.zero_le 59, Nat.zero_le 60⟩

theorem trim_surrounded {ws ws' : List Char} (hws : AllBlank ws) (hcs : Enclosed cs)
    (hws' : AllBlank ws') : trim (String.ofList (ws ++ cs ++ ws')).toList = cs := by
  rw [String.toList_ofList]
  exact trim_of_enclosed hws hcs hws'

/-- Every instant is read back from each of its texts, on every clock, so they all stand for the
same birthday. A date that exists is read like its first moment in full, and a date that does not
exist is reported without the blanks around it. -/
theorem parse_readsBack :
    (∀ (t : Instant) (offset : ℤ), offset.natAbs ≤ 23 * 60 + 59 →
      0 ≤ (t.stampAt offset).date.year ∧ (t.stampAt offset).date.year ≤ 9999 →
      (∃ cs, Spells (t.stampAt offset) cs) ∧
        ∀ ws cs ws', AllBlank ws → Spells (t.stampAt offset) cs → AllBlank ws' →
          parse (String.ofList (ws ++ cs ++ ws')) = .ok t) ∧
    ∀ (d : Date) (ws ws' : List Char), 0 ≤ d.year ∧ d.year ≤ 9999 → d.month < 100 → d.day < 100 →
      AllBlank ws → AllBlank ws' →
      (d.Exists → ∃ t : Instant, t.seconds = d.dayNumber * 86400 ∧ t.nanos = 0 ∧
        parse (String.ofList (ws ++ dateChars d ++ ws')) = .ok t ∧
        parse (String.ofList (ws ++ (dateChars d ++ "T00:00:00Z".toList) ++ ws')) = .ok t) ∧
      (¬ d.Exists → ∃ e, parse (String.ofList (ws ++ dateChars d ++ ws')) = .error e ∧
        e.message = "invalid birthday `" ++ String.ofList (dateChars d) ++
          "`, expected RFC 3339 or YYYY-MM-DD") := by
  constructor
  · intro t offset hoffset hyear
    refine ⟨exists_spells t (by omega), ?_⟩
    intro ws cs ws' hws hcs hws'
    apply parse_of_strict
    rw [trim_surrounded hws hcs.enclosed hws']
    exact parseStrict_of_spells hcs hyear
  · intro d ws ws' hyear hmonth hday hws hws'
    have hdate := parse_dateChars hyear hmonth hday
      (trim_surrounded hws (noBlank_dateChars d).enclosed hws')
    constructor
    · intro h
      obtain ⟨t, ht, hseconds, hnanos⟩ := exists_toInstant_date hyear h
      refine ⟨t, hseconds, hnanos, ?_, ?_⟩
      · rw [hdate, Timestamp.complete_eq_ok_iff.mpr ⟨_, [], takes_dateStamp hyear h, rfl, ht⟩]
      · have htakes := (spells_midnight d).takes (regular_midnight hyear h)
        apply parse_of_strict
        rw [trim_surrounded hws (spells_midnight d).enclosed hws']
        exact Timestamp.complete_eq_ok_iff.mpr ⟨_, [], htakes, rfl, ht⟩
    · intro h
      refine ⟨⟨String.ofList (dateChars d)⟩, ?_, rfl⟩
      rw [hdate]
      rcases hstamp : Timestamp.complete dateStamp (·.isEmpty) (dateChars d) with e | t
      · rfl
      · obtain ⟨s, _, htakes, -, ht⟩ := Timestamp.complete_eq_ok_iff.mp hstamp
        have hexists := exists_of_toInstant ht
        rw [date_of_takes_dateStamp hyear hmonth hday htakes] at hexists
        exact absurd hexists h

/-- The leap second at the end of 2016 on a clock in Tokyo, and a day that 2019 did not have. -/
theorem parse_readsBack_leapSecond :
    (∃ t, parse "\u3000 2017-01-01 08:59:60.12345678999+09:00\u00a0" = .ok t ∧
      t.seconds = 1483228799 ∧ t.nanos = 1123456789) ∧
    ∃ e, parse "2019-02-29\n" = .error e ∧
      e.message = "invalid birthday `2019-02-29`, expected RFC 3339 or YYYY-MM-DD" := by
  obtain ⟨hinstants, hdates⟩ := parse_readsBack
  constructor
  · let t : Instant := ⟨1483228799, 1123456789, by decide, by decide, by decide, by decide⟩
    have hstamp : t.stampAt 540 = ⟨⟨2017, 1, 1⟩, 8, 59, 60, 123456789, 540⟩ := by decide
    have hspells : Spells (t.stampAt 540) "2017-01-01 08:59:60.12345678999+09:00".toList := by
      rw [hstamp]
      have hfraction : Fraction 123456789 ('.' :: "12345678999".toList) :=
        .digits (by decide) (by simp [Numeral.isDigit]) (by decide)
      have hzone : Zone 540 "+09:00".toList := @Zone.ahead 9 0 (by decide) (by decide)
      exact @Spells.mk ⟨⟨2017, 1, 1⟩, 8, 59, 60, 123456789, 540⟩ ' ' _ _ (by decide) hfraction hzone
    have hparse := (hinstants t 540 (by decide) (by decide)).2 ['\u3000', ' '] _ ['\u00a0']
      (by decide) hspells (by decide)
    have htext : "\u3000 2017-01-01 08:59:60.12345678999+09:00\u00a0" = String.ofList
        (['\u3000', ' '] ++ "2017-01-01 08:59:60.12345678999+09:00".toList ++ ['\u00a0']) := by
      decide +kernel
    rw [htext]
    exact ⟨t, hparse, rfl, rfl⟩
  · exact (hdates ⟨2019, 2, 29⟩ [] ['\n'] (by decide) (by decide) (by decide) (by decide)
      (by decide)).2 (by decide)

end Birthday

end WalletRecovery
