import WalletRecovery.Proofs.Path.Grammar

/-! # What is wrong with a path

A text that is no path is refused for its first segment outside the grammar, whatever stands behind
it, unless it does not begin like a path at all. The causes for which a segment is refused overlap,
and they are told apart here in the order in which they count. -/

namespace WalletRecovery

/-- A segment without the mark of a hardened step. One mark is taken off at most. -/
inductive Unmarked : List Char → List Char → Prop where
  | hardened (ds : List Char) : Unmarked (ds ++ ['\'']) ds
  | normal {ds : List Char} : ds.getLast? ≠ some '\'' → Unmarked ds ds

inductive SegmentFault (position : ℕ) : List Char → PathError → Prop where
  | empty : SegmentFault position [] (.emptySegment position)
  | noNumeral {segment ds : List Char} : segment ≠ [] → Unmarked segment ds →
      (ds = [] ∨ ∃ c ∈ ds, Numeral.isDigit c = false) →
      SegmentFault position segment (.invalidSegment (String.ofList segment))
  | leadingZero {segment ds : List Char} : Unmarked segment ('0' :: ds) → ds ≠ [] →
      (∀ c ∈ ds, Numeral.isDigit c = true) →
      SegmentFault position segment (.leadingZero (String.ofList segment))
  | tooLong {segment ds : List Char} : Unmarked segment ds → Numeral.Plain ds →
      2 ^ 64 ≤ Numeral.ofDecimal ds →
      SegmentFault position segment (.invalidSegment (String.ofList segment))
  | outOfRange {segment ds : List Char} : Unmarked segment ds → Numeral.Plain ds →
      2 ^ 31 ≤ Numeral.ofDecimal ds → Numeral.ofDecimal ds < 2 ^ 64 →
      SegmentFault position segment (.indexOutOfRange (Numeral.ofDecimal ds))

/-- The first segment of a text that is outside the grammar: what stands before it is a path, with as
many segments as slashes, and what stands behind it begins with a slash, if there is anything. -/
inductive FirstFault : List Char → ℕ → List Char → Prop where
  | mk {front segment rest : List Char} : PathText front → ¬ SegmentText segment →
      '/' ∉ segment → (∀ c ∈ rest.head?, c = '/') →
      FirstFault (front ++ '/' :: segment ++ rest) (front.count '/') segment

namespace DerivationPath

variable {position : ℕ} {segment ds : List Char} {e : PathError}

theorem unmarked_iff : Unmarked segment ds ↔ (cutMark segment).1 = ds := by
  constructor
  · intro h
    cases h with
    | hardened ds => rw [cutMark_concat]
    | normal hlast => rw [cutMark_of_ne hlast]
  · rintro rfl
    by_cases hlast : segment.getLast? = some '\''
    · obtain ⟨ds, rfl⟩ := List.getLast?_eq_some_iff.mp hlast
      rw [cutMark_concat]
      exact .hardened ds
    · rw [cutMark_of_ne hlast]
      exact .normal hlast

theorem not_digits_iff : (ds = [] ∨ ¬ ds.all Numeral.isDigit) ↔
    ds = [] ∨ ∃ c ∈ ds, Numeral.isDigit c = false := by
  simp

theorem ne_nil_of_cutMark (h : (cutMark segment).1 ≠ []) : segment ≠ [] := by
  rintro rfl
  exact h rfl

theorem segmentFault_of_parseSegment (h : parseSegment position segment = .error e) :
    SegmentFault position segment e := by
  have hunmarked : Unmarked segment (cutMark segment).1 := unmarked_iff.mpr rfl
  simp only [parseSegment] at h
  split at h
  · next hempty =>
    obtain rfl := Except.error.inj h
    subst hempty
    exact .empty
  next hne =>
  split at h
  · next hdigits =>
    obtain rfl := Except.error.inj h
    exact .noNumeral hne hunmarked (not_digits_iff.mp hdigits)
  next hdigits =>
  split at h
  · next hzero =>
    obtain rfl := Except.error.inj h
    obtain ⟨hlength, hhead⟩ := hzero
    obtain ⟨ds, hds⟩ := List.head?_eq_some_iff.mp hhead
    rw [hds] at hunmarked hdigits hlength
    refine .leadingZero hunmarked ?_ ?_
    · rintro rfl
      exact absurd hlength (by decide)
    · intro c hc
      by_contra hdigit
      refine hdigits (not_digits_iff.mpr (Or.inr ⟨c, List.mem_cons_of_mem _ hc, ?_⟩))
      simpa using hdigit
  next hzero =>
  have hplain := plain_of_digits hdigits hzero
  split at h
  · next hlong =>
    obtain rfl := Except.error.inj h
    exact .tooLong hunmarked hplain hlong
  next hlong =>
  split at h
  · cases h
  next hlimit =>
  obtain rfl := Except.error.inj h
  exact .outOfRange hunmarked hplain (Nat.le_of_not_lt hlimit) (Nat.lt_of_not_le hlong)

theorem parseSegment_of_segmentFault (h : SegmentFault position segment e) :
    parseSegment position segment = .error e := by
  cases h with
  | empty => rfl
  | noNumeral hne hcut hdigits =>
    obtain rfl := unmarked_iff.mp hcut
    simp only [parseSegment]
    rw [if_neg hne, if_pos (not_digits_iff.mpr hdigits)]
  | @leadingZero _ ds hcut hne hall =>
    have hds := unmarked_iff.mp hcut
    have hdigits : ¬ ((cutMark segment).1 = [] ∨ ¬ (cutMark segment).1.all Numeral.isDigit) := by
      rw [hds, not_digits_iff]
      rintro (hnil | ⟨c, hc, hno⟩)
      · cases hnil
      · rcases List.mem_cons.mp hc with rfl | hc
        · cases hno
        · rw [hall c hc] at hno
          cases hno
    have hzero : 1 < (cutMark segment).1.length ∧ (cutMark segment).1.head? = some '0' := by
      have hpos := List.length_pos_of_ne_nil hne
      rw [hds, List.length_cons]
      exact ⟨by omega, rfl⟩
    simp only [parseSegment]
    rw [if_neg (ne_nil_of_cutMark (hds ▸ List.cons_ne_nil _ _)), if_neg hdigits, if_pos hzero]
  | tooLong hcut hplain hlong =>
    have hlong : UInt64.size ≤ _ := hlong
    obtain rfl := unmarked_iff.mp hcut
    obtain ⟨hdigits, hzero⟩ := digits_of_plain hplain
    simp only [parseSegment]
    rw [if_neg (ne_nil_of_cutMark fun hnil => hdigits (Or.inl hnil)), if_neg hdigits,
      if_neg hzero, if_pos hlong]
  | outOfRange hcut hplain hlimit hshort =>
    have hshort : ¬ UInt64.size ≤ _ := Nat.not_le_of_lt hshort
    have hlimit : ¬ _ < indexLimit := Nat.not_lt_of_le hlimit
    obtain rfl := unmarked_iff.mp hcut
    obtain ⟨hdigits, hzero⟩ := digits_of_plain hplain
    simp only [parseSegment]
    rw [if_neg (ne_nil_of_cutMark fun hnil => hdigits (Or.inl hnil)), if_neg hdigits,
      if_neg hzero, if_neg hshort, dif_neg hlimit]

/-- A segment is refused exactly for what is wrong with it. -/
theorem parseSegment_eq_error_iff :
    parseSegment position segment = .error e ↔ SegmentFault position segment e :=
  ⟨segmentFault_of_parseSegment, parseSegment_of_segmentFault⟩

theorem exists_segmentFault_iff (position : ℕ) (segment : List Char) :
    (∃ e, SegmentFault position segment e) ↔ ¬ SegmentText segment := by
  simp only [← parseSegment_eq_error_iff, segmentText_iff]
  constructor
  · rintro ⟨e, h⟩ ⟨c, rfl⟩
    rw [parseSegment_chars] at h
    cases h
  · intro h
    cases hs : parseSegment position segment with
    | error e => exact ⟨e, rfl⟩
    | ok c => exact absurd ⟨c, eq_chars_of_parseSegment hs⟩ h

theorem parseSegments_eq_error_iff {segments : List (List Char)} :
    parseSegments position segments = .error e ↔
      ∃ (steps : List ChildNumber) (segment : List Char) (behind : List (List Char)),
        segments = steps.map ChildNumber.chars ++ segment :: behind ∧
        parseSegment (position + steps.length) segment = .error e := by
  constructor
  · intro h
    induction segments generalizing position with
    | nil => cases h
    | cons segment segments ih =>
      rw [parseSegments] at h
      cases hs : parseSegment position segment with
      | error e' =>
        rw [hs] at h
        obtain rfl := Except.error.inj h
        exact ⟨[], segment, segments, rfl, hs⟩
      | ok c =>
        rw [hs] at h
        cases hr : parseSegments (position + 1) segments with
        | ok cs => rw [hr] at h; cases h
        | error e' =>
          rw [hr] at h
          obtain rfl := Except.error.inj h
          obtain ⟨steps, bad, behind, rfl, hbad⟩ := ih hr
          refine ⟨c :: steps, bad, behind, ?_, ?_⟩
          · rw [eq_chars_of_parseSegment hs]
            rfl
          · rw [List.length_cons, Nat.add_comm steps.length, ← Nat.add_assoc]
            exact hbad
  · rintro ⟨steps, segment, behind, rfl, h⟩
    induction steps generalizing position with
    | nil =>
      change parseSegments position (segment :: behind) = _
      rw [parseSegments]
      rw [List.length_nil, Nat.add_zero] at h
      rw [h]
      rfl
    | cons c steps ih =>
      rw [List.length_cons, Nat.add_comm steps.length, ← Nat.add_assoc] at h
      rw [List.map_cons, List.cons_append, parseSegments, parseSegment_chars, ih h]
      rfl

theorem count_slash_chars (p : DerivationPath) : p.chars.count '/' = p.length := by
  have hsteps (steps : List ChildNumber) :
      (steps.flatMap fun c => '/' :: c.chars).count '/' = steps.length := by
    induction steps with
    | nil => rfl
    | cons c steps ih =>
      have hnone : c.chars.count '/' = 0 := List.count_eq_zero.mpr c.slash_notMem_chars
      rw [List.flatMap_cons, List.count_append, ih, List.count_cons_self, hnone, List.length_cons]
      omega
  rw [chars, List.count_cons_of_ne (by decide), hsteps]
  rfl

theorem firstFault_of_splitOn {cs : List Char} {p : DerivationPath} {behind : List (List Char)}
    (h : cs.splitOn '/' = ['m'] :: (p.steps.map ChildNumber.chars ++ segment :: behind))
    (hsegment : ¬ SegmentText segment) : FirstFault cs p.length segment := by
  have hcut : ['/'].intercalate (cs.splitOn '/') = cs := List.intercalate_splitOn '/'
  have hcs : cs = p.chars ++ '/' :: segment ++ behind.flatMap ('/' :: ·) := by
    rw [← hcut, h, Text.intercalate_cons_eq, List.flatMap_append, List.flatMap_map,
      List.flatMap_cons, ← List.append_assoc, ← List.append_assoc]
    rfl
  have hslash : '/' ∉ segment := by
    intro hmem
    have hpiece : segment ∈ cs.splitOnP (· == '/') := by
      rw [List.splitOn_eq_splitOnP] at h
      rw [h]
      simp
    exact absurd (Text.eq_false_of_mem_splitOnP hpiece _ hmem) (by decide)
  rw [hcs, ← count_slash_chars]
  refine .mk (pathText_iff.mpr ⟨p, rfl⟩) hsegment hslash ?_
  cases behind with
  | nil => simp
  | cons piece behind => simp

theorem splitOn_of_firstFault {cs : List Char} (h : FirstFault cs position segment) :
    ∃ (p : DerivationPath) (behind : List (List Char)), p.length = position ∧
      ¬ SegmentText segment ∧
      cs.splitOn '/' = ['m'] :: (p.steps.map ChildNumber.chars ++ segment :: behind) := by
  cases h with
  | @mk front _ rest hfront hsegment hslash hrest =>
    obtain ⟨p, rfl⟩ := pathText_iff.mp hfront
    have hbehind : ∃ behind, (segment ++ rest).splitOn '/' = segment :: behind := by
      cases rest with
      | nil =>
        rw [List.append_nil]
        exact ⟨[], List.splitOn_eq_singleton hslash⟩
      | cons c rest =>
        obtain rfl := hrest c rfl
        exact ⟨_, List.splitOn_append_cons_self_of_not_mem hslash _⟩
    obtain ⟨behind, hbehind⟩ := hbehind
    refine ⟨p, behind, (count_slash_chars p).symm, hsegment, ?_⟩
    rw [List.append_assoc, List.cons_append, List.splitOn_append_cons_self, splitOn_chars, hbehind]
    rfl

theorem parse_eq_error_iff {s : String} : parse s = .error e ↔
    (s.toList.takeWhile (· ≠ '/') ≠ ['m'] ∧ e = .missingMaster s) ∨
    ∃ position segment, FirstFault s.toList position segment ∧
      SegmentFault position segment e := by
  have hhead := Text.head?_splitOn '/' s.toList
  constructor
  · intro h
    by_cases hm : s.toList.takeWhile (· ≠ '/') = ['m']
    · right
      rw [hm] at hhead
      obtain ⟨segments, hs⟩ := List.head?_eq_some_iff.mp hhead
      rw [parse_of_splitOn hs] at h
      cases hr : parseSegments 0 segments with
      | ok steps => rw [hr] at h; cases h
      | error e' =>
        rw [hr] at h
        obtain rfl := Except.error.inj h
        obtain ⟨steps, segment, behind, rfl, hbad⟩ := parseSegments_eq_error_iff.mp hr
        rw [Nat.zero_add] at hbad
        have hfault := parseSegment_eq_error_iff.mp hbad
        have hsegment := (exists_segmentFault_iff _ _).mp ⟨_, hfault⟩
        exact ⟨steps.length, segment, @firstFault_of_splitOn _ _ ⟨steps⟩ _ hs hsegment, hfault⟩
    · left
      rw [parse_of_missing (by rw [hhead]; exact fun h => hm (Option.some.inj h))] at h
      exact ⟨hm, (Except.error.inj h).symm⟩
  · rintro (⟨hm, rfl⟩ | ⟨position, segment, hfirst, hfault⟩)
    · exact parse_of_missing (by rw [hhead]; exact fun h => hm (Option.some.inj h))
    · obtain ⟨p, behind, rfl, -, hs⟩ := splitOn_of_firstFault hfirst
      have hbad : parseSegments 0 (p.steps.map ChildNumber.chars ++ segment :: behind) =
          .error e := by
        refine parseSegments_eq_error_iff.mpr ⟨p.steps, segment, behind, rfl, ?_⟩
        rw [Nat.zero_add]
        exact parseSegment_eq_error_iff.mpr hfault
      rw [parse_of_splitOn hs, hbad]
      rfl

/-- A text is refused for what is wrong with its first segment outside the grammar, if the letter
`m` stands before its first slash, and else for this. Something is wrong with each such segment. What
stands behind it does not matter, and of what stands before it only the number of segments. -/
theorem parse_firstFault :
    (∀ s e, parse s = .error e ↔
      (s.toList.takeWhile (· ≠ '/') ≠ ['m'] ∧ e = .missingMaster s) ∨
      ∃ position segment, FirstFault s.toList position segment ∧
        SegmentFault position segment e) ∧
    (∀ position segment, (∃ e, SegmentFault position segment e) ↔ ¬ SegmentText segment) ∧
    ∀ s t position segment, FirstFault s.toList position segment →
      FirstFault t.toList position segment → ∀ e, parse s = .error e ↔ parse t = .error e := by
  refine ⟨fun s e => parse_eq_error_iff, exists_segmentFault_iff, ?_⟩
  intro s t position segment hs ht
  obtain ⟨-, -, -, hsegment, -⟩ := splitOn_of_firstFault hs
  obtain ⟨e, hfault⟩ := (exists_segmentFault_iff position segment).mpr hsegment
  have hparse : parse s = .error e := parse_eq_error_iff.mpr (Or.inr ⟨_, _, hs, hfault⟩)
  have hparse' : parse t = .error e := parse_eq_error_iff.mpr (Or.inr ⟨_, _, ht, hfault⟩)
  intro e'
  rw [hparse, hparse']

/-- A number that begins with a zero is refused for this although it is too large as well, and
although the segments behind it are worse. -/
theorem parse_firstFault_leadingZero :
    parse "m/84'/099999999999999999999'//x" = .error (.leadingZero "099999999999999999999'") ∧
    parse "m/0/099999999999999999999'" = .error (.leadingZero "099999999999999999999'") := by
  let digits := "099999999999999999999".toList
  let segment := digits ++ ['\'']
  have hfault : SegmentFault 1 segment (.leadingZero "099999999999999999999'") :=
    .leadingZero (.hardened digits) (by decide) (List.all_eq_true.mp (by decide))
  have hsegment : ¬ SegmentText segment := (exists_segmentFault_iff 1 segment).mp ⟨_, hfault⟩
  have hs : FirstFault "m/84'/099999999999999999999'//x".toList 1 segment :=
    @FirstFault.mk "m/84'".toList segment "//x".toList
      (pathText_iff.mpr ⟨⟨[⟨84, true, by decide⟩]⟩, by decide⟩) hsegment (by decide)
      (by simp [eq_comm])
  have ht : FirstFault "m/0/099999999999999999999'".toList 1 segment :=
    @FirstFault.mk "m/0".toList segment []
      (pathText_iff.mpr ⟨⟨[.zero]⟩, by decide⟩) hsegment (by decide) (by simp)
  obtain ⟨hiff, -, hbehind⟩ := parse_firstFault
  have hparse := (hiff "m/84'/099999999999999999999'//x" _).mpr (Or.inr ⟨1, segment, hs, hfault⟩)
  exact ⟨hparse, (hbehind _ _ 1 segment hs ht _).mp hparse⟩

end DerivationPath

end WalletRecovery
