import WalletRecovery.Path.Parser
import WalletRecovery.Proofs.Numeral
import WalletRecovery.Proofs.Text.Pieces

/-! # The grammar of paths

A path text is the letter `m` and segments, each behind a slash. Reading a segment undoes writing a
child number and the other way round, and slashes cut a text in one way only, so paths and the texts
of the grammar correspond to each other one by one. -/

namespace WalletRecovery

/-- The text of one step: a plain numeral below the limit, with an apostrophe if hardened. -/
inductive SegmentText : List Char → Prop where
  | normal {ds : List Char} : Numeral.Plain ds → Numeral.ofDecimal ds < indexLimit →
      SegmentText ds
  | hardened {ds : List Char} : Numeral.Plain ds → Numeral.ofDecimal ds < indexLimit →
      SegmentText (ds ++ ['\''])

/-- The text of a path: the letter `m`, and any number of segments with a slash before each. -/
inductive PathText : List Char → Prop where
  | master : PathText ['m']
  | step {cs segment : List Char} : PathText cs → SegmentText segment →
      PathText (cs ++ '/' :: segment)

namespace ChildNumber

theorem isDigit_or_eq_of_mem_chars {c : ChildNumber} {x : Char} (hx : x ∈ c.chars) :
    Numeral.isDigit x = true ∨ x = '\'' := by
  rw [chars, List.mem_append] at hx
  rcases hx with hx | hx
  · exact Or.inl (Numeral.isDigit_of_mem_decimal hx)
  · cases hc : c.hardened with
    | false => simp [hc] at hx
    | true => exact Or.inr (by simpa [hc] using hx)

theorem slash_notMem_chars (c : ChildNumber) : '/' ∉ c.chars := by
  intro h
  rcases isDigit_or_eq_of_mem_chars h with h | h <;> exact absurd h (by decide)

theorem segmentText_chars (c : ChildNumber) : SegmentText c.chars := by
  have hplain := Numeral.plain_decimal c.index
  have hlt : Numeral.ofDecimal (Numeral.decimal c.index) < indexLimit := by
    rw [Numeral.ofDecimal_decimal]
    exact c.index_lt
  rw [chars]
  cases c.hardened with
  | false => simpa using SegmentText.normal hplain hlt
  | true => exact .hardened hplain hlt

end ChildNumber

theorem segmentText_iff {cs : List Char} : SegmentText cs ↔ ∃ c : ChildNumber, cs = c.chars := by
  constructor
  · intro h
    cases h with
    | @normal ds hplain hlt =>
      refine ⟨⟨Numeral.ofDecimal cs, false, hlt⟩, ?_⟩
      simp [ChildNumber.chars, hplain.decimal_ofDecimal]
    | @hardened ds hplain hlt =>
      refine ⟨⟨Numeral.ofDecimal ds, true, hlt⟩, ?_⟩
      simp [ChildNumber.chars, hplain.decimal_ofDecimal]
  · rintro ⟨c, rfl⟩
    exact c.segmentText_chars

namespace DerivationPath

theorem cutMark_concat (ds : List Char) : cutMark (ds ++ ['\'']) = (ds, true) := by
  simp [cutMark]

theorem cutMark_of_ne {cs : List Char} (h : cs.getLast? ≠ some '\'') :
    cutMark cs = (cs, false) := by
  rw [cutMark]
  split
  · next hlast => exact absurd hlast h
  · rfl

theorem cutMark_append (cs : List Char) :
    (cutMark cs).1 ++ (if (cutMark cs).2 then ['\''] else []) = cs := by
  by_cases h : cs.getLast? = some '\''
  · obtain ⟨ds, rfl⟩ := List.getLast?_eq_some_iff.mp h
    rw [cutMark_concat]
    rfl
  · rw [cutMark_of_ne h]
    exact List.append_nil cs

theorem cutMark_chars (c : ChildNumber) :
    cutMark c.chars = (Numeral.decimal c.index, c.hardened) := by
  cases hc : c.hardened with
  | true =>
    rw [ChildNumber.chars, hc]
    exact cutMark_concat _
  | false =>
    rw [ChildNumber.chars, hc, if_neg Bool.false_ne_true, List.append_nil]
    apply cutMark_of_ne
    intro hlast
    have hmem := List.mem_of_getLast? hlast
    exact absurd (Numeral.isDigit_of_mem_decimal hmem) (by decide)

theorem plain_of_digits {ds : List Char} (hd : ¬ (ds = [] ∨ ¬ ds.all Numeral.isDigit))
    (hz : ¬ (1 < ds.length ∧ ds.head? = some '0')) : Numeral.Plain ds := by
  cases ds with
  | nil => exact absurd (Or.inl rfl) hd
  | cons c cs =>
    have hall : ∀ d ∈ c :: cs, Numeral.isDigit d = true := by
      by_contra h
      exact hd (Or.inr (fun hd => h (List.all_eq_true.mp hd)))
    obtain ⟨hc, hcs⟩ := List.forall_mem_cons.mp hall
    by_cases h0 : c = '0'
    · subst c
      cases cs with
      | nil => exact .zero
      | cons d cs => exact absurd ⟨by simp, rfl⟩ hz
    · exact .positive hc h0 hcs

theorem digits_of_plain {ds : List Char} (h : Numeral.Plain ds) :
    ¬ (ds = [] ∨ ¬ ds.all Numeral.isDigit) ∧ ¬ (1 < ds.length ∧ ds.head? = some '0') := by
  have hall := List.all_eq_true.mpr h.isDigit
  cases h with
  | zero => exact ⟨by decide, by decide⟩
  | positive _ h0 _ => exact ⟨by simp [hall], by simp [h0]⟩

theorem parseSegment_chars (position : ℕ) (c : ChildNumber) :
    parseSegment position c.chars = .ok c := by
  obtain ⟨hdigits, hzero⟩ := digits_of_plain (Numeral.plain_decimal c.index)
  have hne : c.chars ≠ [] := by
    intro h
    have := congrArg cutMark h
    rw [cutMark_chars] at this
    exact hdigits (Or.inl (congrArg Prod.fst this))
  have hlt := c.index_lt
  have h64 : ¬ UInt64.size ≤ c.index := by
    have : indexLimit < UInt64.size := by decide
    omega
  simp only [parseSegment, cutMark_chars, Numeral.ofDecimal_decimal]
  rw [if_neg hne, if_neg hdigits, if_neg hzero, if_neg h64, dif_pos hlt]

theorem eq_chars_of_parseSegment {position : ℕ} {segment : List Char} {c : ChildNumber}
    (h : parseSegment position segment = .ok c) : segment = c.chars := by
  simp only [parseSegment] at h
  split at h
  · cases h
  split at h
  · cases h
  next hdigits =>
  split at h
  · cases h
  next hzero =>
  split at h
  · cases h
  split at h
  · next hlt =>
    obtain rfl := Except.ok.inj h
    have hplain := plain_of_digits hdigits hzero
    rw [ChildNumber.chars, hplain.decimal_ofDecimal]
    exact (cutMark_append segment).symm
  · cases h

/-- Reading segments is the inverse of writing child numbers, in both directions. -/
theorem parseSegments_eq_ok_iff {position : ℕ} {segments : List (List Char)}
    {steps : List ChildNumber} :
    parseSegments position segments = .ok steps ↔ segments = steps.map ChildNumber.chars := by
  constructor
  · intro h
    induction segments generalizing position steps with
    | nil =>
      obtain rfl := Except.ok.inj h
      rfl
    | cons segment segments ih =>
      rw [parseSegments] at h
      cases hs : parseSegment position segment with
      | error e => rw [hs] at h; cases h
      | ok c =>
        rw [hs] at h
        cases hr : parseSegments (position + 1) segments with
        | error e => rw [hr] at h; cases h
        | ok cs =>
          rw [hr] at h
          obtain rfl := Except.ok.inj h
          rw [eq_chars_of_parseSegment hs, ih hr, List.map_cons]
  · rintro rfl
    induction steps generalizing position with
    | nil => rfl
    | cons c steps ih =>
      rw [List.map_cons, parseSegments, parseSegment_chars, ih]
      rfl

theorem chars_eq_intercalate (p : DerivationPath) :
    p.chars = ['/'].intercalate (['m'] :: p.steps.map ChildNumber.chars) := by
  rw [Text.intercalate_cons_eq, List.flatMap_map]
  rfl

/-- Slashes cut the text of a path into the letter `m` and the texts of its steps. -/
theorem splitOn_chars (p : DerivationPath) :
    p.chars.splitOn '/' = ['m'] :: p.steps.map ChildNumber.chars := by
  rw [chars_eq_intercalate, List.splitOn_intercalate]
  · intro l hl
    rcases List.mem_cons.mp hl with rfl | hl
    · decide
    · obtain ⟨c, -, rfl⟩ := List.mem_map.mp hl
      exact c.slash_notMem_chars
  · exact List.cons_ne_nil _ _

theorem parse_of_splitOn {s : String} {segments : List (List Char)}
    (h : s.toList.splitOn '/' = ['m'] :: segments) :
    parse s = (parseSegments 0 segments).map (⟨·⟩) := by
  rw [parse, h]
  rfl

theorem parse_of_missing {s : String} (h : (s.toList.splitOn '/').head? ≠ some ['m']) :
    parse s = .error (.missingMaster s) := by
  rw [parse]
  split
  · next heq => exact absurd (by rw [heq]; rfl) h
  · rfl

/-- A text is read as a path exactly if it is the text of that path. -/
theorem parse_eq_ok_iff {s : String} {p : DerivationPath} : parse s = .ok p ↔ s = p.text := by
  constructor
  · intro h
    by_cases hm : (s.toList.splitOn '/').head? = some ['m']
    · obtain ⟨segments, hs⟩ := List.head?_eq_some_iff.mp hm
      rw [parse_of_splitOn hs] at h
      cases hr : parseSegments 0 segments with
      | error e => rw [hr] at h; cases h
      | ok steps =>
        rw [hr] at h
        obtain rfl := Except.ok.inj h
        rw [parseSegments_eq_ok_iff.mp hr] at hs
        have hcut : ['/'].intercalate (s.toList.splitOn '/') = s.toList :=
          List.intercalate_splitOn '/'
        rw [hs] at hcut
        rw [text, chars_eq_intercalate, hcut, String.ofList_toList]
    · rw [parse_of_missing hm] at h
      cases h
  · rintro rfl
    have hs : p.text.toList.splitOn '/' = ['m'] :: p.steps.map ChildNumber.chars := by
      rw [text, String.toList_ofList, splitOn_chars]
    rw [parse_of_splitOn hs, parseSegments_eq_ok_iff.mpr rfl]
    rfl

theorem pathText_iff {cs : List Char} : PathText cs ↔ ∃ p : DerivationPath, cs = p.chars := by
  constructor
  · intro h
    induction h with
    | master => exact ⟨.master, rfl⟩
    | @step cs segment _ hsegment ih =>
      obtain ⟨p, rfl⟩ := ih
      obtain ⟨c, rfl⟩ := segmentText_iff.mp hsegment
      exact ⟨p.child c, by simp [child, chars_extend]⟩
  · rintro ⟨⟨steps⟩, rfl⟩
    induction steps using List.reverseRecOn with
    | nil => exact .master
    | append_singleton steps c ih =>
      have h := PathText.step ih c.segmentText_chars
      have heq := chars_extend ⟨steps⟩ [c]
      rw [List.flatMap_singleton] at heq
      rw [← heq] at h
      exact h

theorem toList_text (p : DerivationPath) : p.text.toList = p.chars :=
  String.toList_ofList

theorem exists_parse_iff {s : String} : (∃ p, parse s = .ok p) ↔ PathText s.toList := by
  simp only [parse_eq_ok_iff, pathText_iff]
  constructor
  · rintro ⟨p, rfl⟩
    exact ⟨p, p.toList_text⟩
  · rintro ⟨p, hp⟩
    exact ⟨p, by rw [text, ← hp, String.ofList_toList]⟩

/-- The texts that are read as paths are those of the grammar, reading and writing are inverse to
each other, and a longer path continues the text of a shorter one. -/
theorem parse_bijective :
    (∀ s, (∃ p, parse s = .ok p) ↔ PathText s.toList) ∧
    (∀ s p, parse s = .ok p → p.text = s) ∧
    (∀ p : DerivationPath, parse p.text = .ok p) ∧
    ∀ p q : DerivationPath, ∃ rest, q.text = "m" ++ rest ∧
      (p.extend q.steps).text = p.text ++ rest := by
  refine ⟨fun s => exists_parse_iff, ?_, ?_, ?_⟩
  · intro s p h
    exact (parse_eq_ok_iff.mp h).symm
  · intro p
    exact parse_eq_ok_iff.mpr rfl
  · intro p q
    refine ⟨String.ofList (q.steps.flatMap fun c => '/' :: c.chars), ?_, ?_⟩
    · apply String.toList_injective
      simp only [toList_text, String.toList_append, String.toList_ofList, chars]
      rfl
    · apply String.toList_injective
      rw [toList_text, String.toList_append, toList_text, String.toList_ofList, chars_extend]

theorem parse_bijective_account :
    ∃ p : DerivationPath, parse "m/84'/0'" = .ok p ∧ p.text = "m/84'/0'" ∧
      PathText "m/84'/0'".toList := by
  have hread : parse "m/84'/0'" = .ok ⟨[⟨84, true, by decide⟩, ⟨0, true, by decide⟩]⟩ := by decide
  obtain ⟨hgrammar, htext, -, -⟩ := parse_bijective
  exact ⟨_, hread, htext _ _ hread, (hgrammar _).mp ⟨_, hread⟩⟩

end DerivationPath

end WalletRecovery
