import WalletRecovery.Document.Toml.Reader
import WalletRecovery.Proofs.Document.Toml.Lexeme

/-! # Documents of lines

A document that assigns one value on every line is read back as its fields, in order, if their
names are distinct. Quoted texts and plain numerals are values that stand on a line. -/

namespace WalletRecovery.Toml

open Document (Value)
open Text

variable {c : Char} {ds rest : List Char}

/-! ## Values on a line -/

/-- Whether a text stands for a value up to the end of the line. -/
structure Stands (cs : List Char) (v : Value) : Prop where
  /-- It starts with no blank. -/
  head : ∃ c tail, isBlank c = false ∧ cs = c :: tail
  takes (rest : List Char) : Takes (value nestingLimit) (cs ++ '\n' :: rest) v ('\n' :: rest)

theorem Quotes.stands {q : String → List Char} (h : Quotes q) (s : String) :
    Stands (q s) (.text s) := by
  have hhead := h.head s
  have htakes := h.takes s
  cases hq : q s with
  | nil => simp [hq] at hhead
  | cons c cs =>
    rw [hq] at hhead htakes
    rw [List.head?_cons, Option.some_inj, Option.some_inj] at hhead
    rcases hhead with rfl | rfl
    · exact ⟨⟨_, _, rfl, rfl⟩, fun rest =>
        (takes_get _).bind ((htakes rest).bind (takes_pure _ _))⟩
    · exact ⟨⟨_, _, rfl, rfl⟩, fun rest =>
        (takes_get _).bind ((htakes rest).bind (takes_pure _ _))⟩

theorem takes_digitsWith (hdigit : ∀ c ∈ ds, Numeral.isDigit c = true) (hne : ds ≠ [])
    (rest : List Char) :
    Takes (digitsWith Numeral.isDigit : Reader (List Char)) (ds ++ '\n' :: rest) ds
      ('\n' :: rest) := by
  have hscore : ∀ c ∈ ds, c ≠ '_' := by
    rintro c hc rfl
    cases hdigit _ hc
  have hpiece : (ds ++ '\n' :: rest).takeWhile (fun c => Numeral.isDigit c || c == '_') = ds := by
    rw [List.takeWhile_append_of_pos (fun c hc => by rw [hdigit c hc, Bool.true_or]),
      List.takeWhile_cons_of_neg (by decide), List.append_nil]
  have hdigits : ds.filter (· != '_') = ds := by
    rw [List.filter_eq_self]
    intro c hc
    exact bne_iff_ne.mpr (hscore c hc)
  have hproper : ds.head? ≠ some '_' ∧ ds.getLast? ≠ some '_' ∧ ds ≠ [] ∧
      (ds.zip ds.tail).all (fun pair => pair.1 != '_' || pair.2 != '_') = true := by
    refine ⟨fun h => hscore _ (List.mem_of_head? h) rfl,
      fun h => hscore _ (List.mem_of_getLast? h) rfl, hne, ?_⟩
    rw [List.all_eq_true]
    intro pair hpair
    rw [bne_iff_ne.mpr (hscore _ (List.of_mem_zip hpair).1), Bool.true_or]
  rw [Takes, digitsWith, hpiece, hdigits, if_pos hproper, List.drop_left]
  rfl

theorem takes_wholePart (h : Numeral.Plain ds) (rest : List Char) :
    Takes wholePart (ds ++ '\n' :: rest) ds ('\n' :: rest) := by
  cases h with
  | zero => rfl
  | @positive c cs hc h0 hcs =>
    have hdigit : ∀ d ∈ c :: cs, Numeral.isDigit d = true := List.forall_mem_cons.mpr ⟨hc, hcs⟩
    have hdigits := takes_digitsWith hdigit (List.cons_ne_nil c cs) rest
    rw [List.cons_append, Takes, wholePart]
    · exact hdigits
    · intro tail heq
      exact h0 (List.cons.inj heq).1

theorem takes_sign (hc : Numeral.isDigit c = true) (cs : List Char) :
    Takes sign (c :: cs) false (c :: cs) := by
  rw [Takes, sign]
  · rfl
  · exact cons_ne_of_class hc rfl cs
  · exact cons_ne_of_class hc rfl cs

theorem takes_decimalNumber (h : Numeral.Plain ds)
    (hlt : Numeral.ofDecimal ds < 0x8000000000000000) (rest : List Char) :
    Takes decimalNumber (ds ++ '\n' :: rest) (.integer (Numeral.ofDecimal ds))
      ('\n' :: rest) := by
  have hsign : Takes sign (ds ++ '\n' :: rest) false (ds ++ '\n' :: rest) := by
    cases h with
    | zero => rfl
    | positive hc _ _ => exact takes_sign hc _
  refine hsign.bind ((takes_wholePart h rest).bind ?_)
  refine Takes.bind rfl (Takes.bind rfl ?_)
  have hinteger : integer? (Numeral.ofDecimal ds) = some (.integer (Numeral.ofDecimal ds)) :=
    if_pos ⟨by omega, by omega⟩
  rw [if_pos ⟨rfl, rfl⟩]
  change Takes (liftM (integer? (Numeral.ofDecimal ds)) : Reader Value) _ _ _
  rw [hinteger]
  rfl

theorem dropWhile_isDigit_line (hdigit : ∀ c ∈ ds, Numeral.isDigit c = true) (rest : List Char) :
    (ds ++ '\n' :: rest).dropWhile Numeral.isDigit = '\n' :: rest := by
  rw [List.dropWhile_append_of_pos hdigit, List.dropWhile_cons_of_neg (by decide)]

/-- Digits up to the end of the line start no date: there is no hyphen behind them. -/
theorem startsDate_eq_false (hdigit : ∀ c ∈ ds, Numeral.isDigit c = true) (rest : List Char) :
    startsDate (ds ++ '\n' :: rest) = false := by
  have hline := dropWhile_isDigit_line hdigit rest
  rw [Bool.eq_false_iff]
  intro h
  rw [startsDate, Bool.and_eq_true, List.all_eq_true, beq_iff_eq] at h
  obtain ⟨hall, hhead⟩ := h
  obtain ⟨tail, htail⟩ := List.head?_eq_some_iff.mp hhead
  rw [← List.take_append_drop 4 (ds ++ '\n' :: rest), List.dropWhile_append_of_pos hall, htail,
    List.dropWhile_cons_of_neg (by decide)] at hline
  cases hline

theorem startsClock_eq_false (hdigit : ∀ c ∈ ds, Numeral.isDigit c = true) (rest : List Char) :
    startsClock (ds ++ '\n' :: rest) = false := by
  have hline := dropWhile_isDigit_line hdigit rest
  rw [startsClock.eq_def]
  split
  · next a b tail heq =>
    rw [Bool.eq_false_iff]
    intro h
    obtain ⟨ha, hb⟩ := Bool.and_eq_true_iff.mp h
    rw [heq, List.dropWhile_cons_of_pos ha, List.dropWhile_cons_of_pos hb,
      List.dropWhile_cons_of_neg (by decide)] at hline
    cases hline
  · rfl

theorem takes_numberOrMoment (h : Numeral.Plain ds)
    (hlt : Numeral.ofDecimal ds < 0x8000000000000000) (rest : List Char) :
    Takes numberOrMoment (ds ++ '\n' :: rest) (.integer (Numeral.ofDecimal ds))
      ('\n' :: rest) := by
  have hnumber := takes_decimalNumber h hlt rest
  refine (takes_get _).bind ?_
  rw [startsDate_eq_false h.isDigit, startsClock_eq_false h.isDigit, if_neg (by decide)]
  cases h with
  | zero => exact hnumber
  | @positive c cs hc h0 hcs =>
    split
    iterate 3 next heq => exact absurd (List.cons.inj heq).1 h0
    · rw [List.cons_append, List.dropWhile_cons_of_neg]
      · split
        iterate 2 next heq => exact absurd heq (cons_ne_of_class hc rfl _ _)
        · exact hnumber
      · simp [ne_of_class (d := '+') hc rfl, ne_of_class (d := '-') hc rfl]

theorem takes_scalar_of_isDigit {cs : List Char} (hc : Numeral.isDigit c = true) {v : Value}
    (h : Takes numberOrMoment (c :: cs) v rest) : Takes scalar (c :: cs) v rest := by
  refine (takes_get _).bind ?_
  split
  iterate 2 next heq => exact absurd heq (cons_ne_of_class hc rfl _ _)
  · exact h

theorem stands_plain (h : Numeral.Plain ds) (hlt : Numeral.ofDecimal ds < 0x8000000000000000) :
    Stands ds (.integer (Numeral.ofDecimal ds)) := by
  have hnumber := takes_numberOrMoment h hlt
  obtain ⟨c, cs, rfl⟩ : ∃ c cs, ds = c :: cs := by
    cases h with
    | zero => exact ⟨_, _, rfl⟩
    | positive _ _ _ => exact ⟨_, _, rfl⟩
  have hc := h.isDigit c List.mem_cons_self
  refine ⟨⟨c, cs, ?_, rfl⟩, ?_⟩
  · rw [isBlank, Bool.or_eq_false_iff, beq_eq_false_iff_ne, beq_eq_false_iff_ne]
    exact ⟨ne_of_class hc rfl, ne_of_class hc rfl⟩
  · intro rest
    refine (takes_get _).bind ?_
    split
    iterate 4 next heq => exact absurd heq (cons_ne_of_class hc rfl _ _)
    · exact takes_scalar_of_isDigit hc (hnumber rest)

/-! ## Lines -/

/-- A line that assigns a value: the name of a field, and a text that stands for its value. -/
structure Entry where
  name : String
  text : List Char
  value : Value

namespace Entry

def line (e : Entry) : List Char :=
  Toml.line e.name.toList e.text

def field (e : Entry) : String × Value :=
  (e.name, e.value)

/-- Whether the line is read as its field: it has a key without quotes, and its text stands for its
value. -/
structure Proper (e : Entry) : Prop where
  name_ne : e.name.toList ≠ []
  key : ∀ c ∈ e.name.toList, isKeyChar c = true
  stands : Stands e.text e.value

end Entry

def flat (fields : List (String × Value)) : Fields :=
  fields.map fun field => (field.1, .value field.2)

theorem toValues_flat (fields : List (String × Value)) : Node.toValues (flat fields) = fields := by
  induction fields with
  | nil => rfl
  | cons field fields ih =>
    rw [flat, List.map_cons, Node.toValues, Node.toValue]
    exact congrArg (field :: ·) ih

theorem assignBelow_flat {fields : List (String × Value)} {name : String}
    (hnew : name ∉ fields.map Prod.fst) (v : Value) :
    Fields.assignBelow [] [name] v (flat fields) = some (flat (fields ++ [(name, v)])) := by
  have hlookup : List.lookup name (flat fields) = none := by
    rw [List.lookup_eq_none_iff]
    intro field hfield
    obtain ⟨other, hother, rfl⟩ := List.mem_map.mp hfield
    rw [bne_iff_ne]
    rintro rfl
    exact hnew (List.mem_map_of_mem hother)
  change (if true = decide (Origin.header = .dotted) then none
    else if (List.lookup name (flat fields)).isSome then none
    else some (flat fields ++ [(name, .value v)])) = _
  rw [if_neg (by decide), hlookup, if_neg (by decide), flat, flat, List.map_append,
    List.map_singleton]

theorem takes_lines_nil : Takes lines [] () [] := rfl

theorem takes_lines (h : isKeyChar c = true) (cs : List Char) :
    Takes lines (c :: cs) () (c :: cs) := by
  have hblanks : (c :: cs).dropWhile isBlank = c :: cs :=
    List.dropWhile_cons_of_neg (by rw [isBlank_of_isKeyChar h]; decide)
  have hhash : c ≠ '#' := ne_of_class h rfl
  have hnewline : c ≠ '\n' := ne_of_class h rfl
  have hreturn : c ≠ '\r' := ne_of_class h rfl
  have hskip (fuel : ℕ) : skipLines (fuel + 1) (c :: cs) = c :: cs := by
    rw [skipLines, hblanks]
    simp [hhash, hnewline, hreturn]
  rw [Takes, lines, hskip]
  rfl

namespace Entry

variable {e : Entry} {es : List Entry} {fields : List (String × Value)}

theorem line_append (e : Entry) (rest : List Char) : e.line ++ rest =
    e.name.toList ++ ' ' :: '=' :: ' ' :: (e.text ++ '\n' :: rest) := by
  simp [line, Toml.line]

theorem Proper.exists_line (h : e.Proper) :
    ∃ c tail, isKeyChar c = true ∧ e.line = c :: tail := by
  obtain ⟨c, name, hname⟩ := List.exists_cons_of_ne_nil h.name_ne
  refine ⟨c, name ++ [' ', '=', ' '] ++ e.text ++ ['\n'], h.key c ?_, ?_⟩
  · rw [hname]
    exact List.mem_cons_self
  · rw [line, Toml.line, hname]
    rfl

theorem Proper.takes_assignment (h : e.Proper) (hnew : e.name ∉ fields.map Prod.fst)
    (rest : List Char) :
    Takes (assignment ⟨flat fields, []⟩) (e.line ++ rest) ⟨flat (fields ++ [e.field]), []⟩
      rest := by
  obtain ⟨c, tail, hblank, htext⟩ := h.stands.head
  have hvalue := h.stands.takes rest
  have hblanks : Takes blanks (' ' :: (e.text ++ '\n' :: rest)) () (e.text ++ '\n' :: rest) := by
    rw [htext]
    exact takes_blanks_cons hblank _
  rw [line_append]
  refine (takes_key h.name_ne h.key _).bind ((takes_mark '=' _).bind ?_)
  refine hblanks.bind (hvalue.bind ((takes_trailing rest).bind ?_))
  rw [String.ofList_toList]
  dsimp only
  rw [assignBelow_flat hnew]
  rfl

theorem takes_expressions {fuel : ℕ} (hproper : ∀ e ∈ es, e.Proper)
    (hdistinct : (fields.map Prod.fst ++ es.map name).Nodup) (hfuel : es.length < fuel) :
    Takes (expressions fuel ⟨flat fields, []⟩) (es.flatMap line)
      ⟨flat (fields ++ es.map field), []⟩ [] := by
  induction es generalizing fields fuel with
  | nil =>
    obtain ⟨fuel, rfl⟩ := Nat.exists_eq_succ_of_ne_zero (Nat.ne_zero_of_lt hfuel)
    rw [List.map_nil, List.append_nil]
    exact takes_lines_nil.bind (Takes.bind rfl (takes_pure _ _))
  | cons e es ih =>
    obtain ⟨fuel, rfl⟩ := Nat.exists_eq_succ_of_ne_zero (Nat.ne_zero_of_lt hfuel)
    obtain ⟨he, hes⟩ := List.forall_mem_cons.mp hproper
    have hnew : e.name ∉ fields.map Prod.fst := fun hmem =>
      (List.nodup_append.mp hdistinct).2.2 e.name hmem e.name List.mem_cons_self rfl
    have hnext : ((fields ++ [e.field]).map Prod.fst ++ es.map name).Nodup := by
      rw [List.map_append, List.append_assoc]
      exact hdistinct
    have hrest := ih hes hnext (Nat.lt_of_succ_lt_succ hfuel)
    rw [List.append_assoc, List.singleton_append] at hrest
    have hassign := he.takes_assignment hnew (es.flatMap line)
    obtain ⟨c, tail, hc, hline⟩ := he.exists_line
    rw [hline] at hassign
    rw [List.flatMap_cons, hline]
    refine (takes_lines hc _).bind ((takes_get _).bind ?_)
    split
    · next heq => cases heq
    · next heq => exact absurd heq (cons_ne_of_class hc rfl _ _)
    · exact hassign.bind hrest

end Entry

/-- A document of lines with distinct names is read as its fields, in order. -/
theorem parse_lines {es : List Entry} (hproper : ∀ e ∈ es, e.Proper)
    (hdistinct : (es.map Entry.name).Nodup) :
    parse (String.ofList (es.flatMap Entry.line)) = some (es.map Entry.field) := by
  have hne : ∀ e ∈ es, e.line ≠ [] := by
    intro e he
    obtain ⟨c, tail, -, hline⟩ := (hproper e he).exists_line
    rw [hline]
    exact List.cons_ne_nil c tail
  have hfuel : es.length < (es.flatMap Entry.line).length + 1 :=
    Nat.lt_succ_of_le (length_le_flatMap hne)
  have hmark : ∀ tail, es.flatMap Entry.line ≠ '\ufeff' :: tail := by
    intro tail heq
    cases es with
    | nil => cases heq
    | cons e es =>
      obtain ⟨c, line, hc, hline⟩ := (hproper e List.mem_cons_self).exists_line
      rw [List.flatMap_cons, hline] at heq
      exact cons_ne_of_class hc rfl _ _ heq
  have htakes : Takes (expressions ((es.flatMap Entry.line).length + 1) ⟨flat [], []⟩)
      (es.flatMap Entry.line) ⟨flat (es.map Entry.field), []⟩ [] :=
    Entry.takes_expressions hproper hdistinct hfuel
  rw [parse, String.toList_ofList]
  split
  · next tail heq => exact absurd heq (hmark tail)
  · change Option.map _ (expressions _ ⟨flat [], []⟩ (es.flatMap Entry.line)) = _
    rw [Takes] at htakes
    rw [htakes]
    exact congrArg some (toValues_flat _)

end WalletRecovery.Toml
