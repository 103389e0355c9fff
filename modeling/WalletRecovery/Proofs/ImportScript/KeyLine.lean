import WalletRecovery.Proofs.ImportScript.Run
import WalletRecovery.Proofs.Key.Representation
import WalletRecovery.Proofs.Path.Grammar

/-! # What the lines of a script tell

A line has five fields between its blanks, and no key, address or label can break them. The label
of a line is the text of a path with a slash behind it, and the key of the line is the one that the
root derives along that path. -/

namespace WalletRecovery

def LabelChar (c : Char) : Prop :=
  c = 'm' ∨ Numeral.isDigit c = true ∨ c = '/' ∨ c = '\''

theorem graphic_of_labelChar {cs : List Char} (h : ∀ c ∈ cs, LabelChar c) : Text.Graphic cs := by
  intro c hc
  rcases h c hc with rfl | hdigit | rfl | rfl
  · decide
  · simp only [Numeral.isDigit, Bool.and_eq_true, decide_eq_true_eq] at hdigit
    omega
  · decide
  · decide

theorem DerivationPath.labelChar_of_mem_chars {p : DerivationPath} {x : Char} (hx : x ∈ p.chars) :
    LabelChar x := by
  rw [chars] at hx
  rcases List.mem_cons.mp hx with rfl | hx
  · exact Or.inl rfl
  · obtain ⟨c, -, hx⟩ := List.mem_flatMap.mp hx
    rcases List.mem_cons.mp hx with rfl | hx
    · exact Or.inr (Or.inr (Or.inl rfl))
    · rcases ChildNumber.isDigit_or_eq_of_mem_chars hx with hdigit | rfl
      · exact Or.inr (Or.inl hdigit)
      · exact Or.inr (Or.inr (Or.inr rfl))

def labelBelow (account : String) (b : Branch) (i : ℕ) : String :=
  account ++ "/" ++ toString b.index ++ "/" ++ toString i ++ "/"

theorem KeyLabel.text_eq (l : KeyLabel) : l.text = labelBelow l.account.text l.branch l.index :=
  rfl

theorem toList_labelBelow (account : String) (b : Branch) (i : ℕ) :
    (labelBelow account b i).toList = account.toList ++
      ('/' :: Numeral.decimal b.index ++ ('/' :: Numeral.decimal i ++ ['/'])) := by
  rw [labelBelow, Numeral.toString_eq_decimal, Numeral.toString_eq_decimal]
  simp

theorem toList_labelBelow_of_lt (p : DerivationPath) (b : Branch) {i : ℕ} (h : i < indexLimit) :
    (labelBelow p.text b i).toList = (p.extend [b.child, ⟨i, false, h⟩]).chars ++ ['/'] := by
  have hbranch : b.child.chars = Numeral.decimal b.index := by cases b <;> rfl
  have hindex : ChildNumber.chars ⟨i, false, h⟩ = Numeral.decimal i := List.append_nil _
  rw [toList_labelBelow, DerivationPath.toList_text, DerivationPath.chars_extend]
  simp [hbranch, hindex]

theorem labelChar_of_mem_labelBelow {p : DerivationPath} {b : Branch} {i : ℕ} {x : Char}
    (hx : x ∈ (labelBelow p.text b i).toList) : LabelChar x := by
  have hdigit {n : ℕ} (hx : x ∈ '/' :: Numeral.decimal n) : LabelChar x := by
    rcases List.mem_cons.mp hx with rfl | hx
    · exact Or.inr (Or.inr (Or.inl rfl))
    · exact Or.inr (Or.inl (Numeral.isDigit_of_mem_decimal hx))
  rw [toList_labelBelow, DerivationPath.toList_text] at hx
  rcases List.mem_append.mp hx with hx | hx
  · exact DerivationPath.labelChar_of_mem_chars hx
  rcases List.mem_append.mp hx with hx | hx
  · exact hdigit hx
  rcases List.mem_append.mp hx with hx | hx
  · exact hdigit hx
  · obtain rfl := List.mem_singleton.mp hx
    exact Or.inr (Or.inr (Or.inl rfl))

theorem labelBelow_injective {account : String} {b b' : Branch} {i i' : ℕ}
    (h : labelBelow account b i = labelBelow account b' i') : b = b' ∧ i = i' := by
  have hlist := congrArg String.toList h
  rw [toList_labelBelow, toList_labelBelow, List.append_cancel_left_eq] at hlist
  -- a branch is a single digit, so the indices start at the same place in both labels
  have hbranch : ∀ b : Branch, Numeral.decimal b.index = [Numeral.digitChar b.index] := by
    intro b
    cases b <;> rfl
  rw [hbranch, hbranch] at hlist
  simp only [List.cons_append, List.nil_append, List.cons.injEq, List.append_cancel_right_eq,
    true_and] at hlist
  obtain ⟨hb, hi⟩ := hlist
  refine ⟨?_, ?_⟩
  · cases b with
    | external =>
      cases b' with
      | external => rfl
      | internal => exact absurd hb (by decide)
    | internal =>
      cases b' with
      | external => exact absurd hb (by decide)
      | internal => rfl
  · rw [← Numeral.ofDecimal_decimal i, hi, Numeral.ofDecimal_decimal]

/-- What the fields of a line say in each format. -/
inductive LineFields (r : Representation) (label : String) : Strategy → List String → Prop
  | directImport {wif : String} : r.wif = some wif →
      LineFields r label .directImport
        ["bitcoin-cli", "importprivkey", wif, "\"" ++ label ++ "\"", "false"]
  | watchOnlyImport :
      LineFields r label .watchOnlyImport
        ["bitcoin-cli", "importpubkey", r.publicKey.hex, "\"" ++ label ++ "\"", "false"]
  | bulkDump {wif : String} : r.wif = some wif →
      LineFields r label .bulkDump
        [wif, "1970-01-01T00:00:01Z", "label=" ++ label, "#",
          "addr=" ++ r.p2pkh ++ "," ++ r.p2shP2wpkh ++ "," ++ r.p2wpkh]

namespace LineFields

variable {r : Representation} {label : String} {s : Strategy} {fields : List String}

theorem length_eq (h : LineFields r label s fields) : fields.length = 5 := by
  cases h <;> rfl

theorem ne_nil (h : LineFields r label s fields) : fields ≠ [] := by
  cases h <;> exact List.cons_ne_nil _ _

theorem graphic (h : LineFields r label s fields) (hr : r.Graphic)
    (hlabel : Text.Graphic label.toList) : ∀ f ∈ fields, Text.Graphic f.toList := by
  have hcli : Text.Graphic "bitcoin-cli".toList := by decide
  have hfalse : Text.Graphic "false".toList := by decide
  have hquoted : Text.Graphic ("\"" ++ label ++ "\"").toList := by
    have hquote : Text.Graphic "\"".toList := by decide
    rw [String.toList_append, String.toList_append]
    exact (hquote.append hlabel).append hquote
  cases h with
  | directImport hwif =>
    have hcommand : Text.Graphic "importprivkey".toList := by decide
    simp only [List.forall_mem_cons]
    exact ⟨hcli, hcommand, hr.wif _ hwif, hquoted, hfalse, List.forall_mem_nil _⟩
  | watchOnlyImport =>
    have hcommand : Text.Graphic "importpubkey".toList := by decide
    have hhex : Text.Graphic r.publicKey.hex.toList := by
      rw [Bytes.hex, String.toList_ofList]
      exact graphic_hexText _
    simp only [List.forall_mem_cons]
    exact ⟨hcli, hcommand, hhex, hquoted, hfalse, List.forall_mem_nil _⟩
  | bulkDump hwif =>
    have htime : Text.Graphic "1970-01-01T00:00:01Z".toList := by decide
    have hmark : Text.Graphic "#".toList := by decide
    have hcomma : Text.Graphic ",".toList := by decide
    have hnamed : Text.Graphic ("label=" ++ label).toList := by
      have hname : Text.Graphic "label=".toList := by decide
      rw [String.toList_append]
      exact hname.append hlabel
    have haddresses :
        Text.Graphic ("addr=" ++ r.p2pkh ++ "," ++ r.p2shP2wpkh ++ "," ++ r.p2wpkh).toList := by
      have hname : Text.Graphic "addr=".toList := by decide
      simp only [String.toList_append]
      exact ((((hname.append hr.p2pkh).append hcomma).append hr.p2shP2wpkh).append hcomma).append
        hr.p2wpkh
    simp only [List.forall_mem_cons]
    exact ⟨hr.wif _ hwif, htime, hnamed, hmark, haddresses, List.forall_mem_nil _⟩

end LineFields

theorem Representation.eq_of_map_exportedKey {r : Representation} {f : String → String}
    {text : String} (h : r.exportedKey.map f = .ok text) :
    ∃ wif, r.wif = some wif ∧ text = f wif := by
  rw [exportedKey] at h
  cases hwif : r.wif with
  | none => rw [hwif] at h; cases h
  | some wif =>
    rw [hwif] at h
    exact ⟨wif, rfl, (Except.ok.inj h).symm⟩

theorem Strategy.exists_fields_of_line {s : Strategy} {r : Representation} {l : KeyLabel}
    {text : String} (h : s.line r l = .ok text) :
    ∃ fields, LineFields r l.text s fields ∧
      text.toList = [' '].intercalate (fields.map String.toList) := by
  cases s with
  | directImport =>
    obtain ⟨wif, hwif, rfl⟩ := Representation.eq_of_map_exportedKey h
    refine ⟨_, .directImport hwif, ?_⟩
    simp [clientCommand, toString]
  | watchOnlyImport =>
    obtain rfl := Except.ok.inj h
    refine ⟨_, .watchOnlyImport, ?_⟩
    simp [clientCommand, toString]
  | bulkDump =>
    obtain ⟨wif, hwif, rfl⟩ := Representation.eq_of_map_exportedKey h
    refine ⟨_, .bulkDump hwif, ?_⟩
    simp [dumpTimestamp, toString]

theorem splitOn_intercalate_of_graphic {fields : List String} (hne : fields ≠ [])
    (h : ∀ f ∈ fields, Text.Graphic f.toList) :
    ([' '].intercalate (fields.map String.toList)).splitOn ' ' = fields.map String.toList := by
  apply List.splitOn_intercalate
  · intro cs hcs hblank
    obtain ⟨f, hf, rfl⟩ := List.mem_map.mp hcs
    have hge := (h f hf ' ' hblank).1
    exact absurd hge (by decide)
  · exact fun hnil => hne (List.map_eq_nil_iff.mp hnil)

theorem mem_intercalate_singleton {α : Type} {sep x : α} {ls : List (List α)}
    (h : x ∈ [sep].intercalate ls) : x = sep ∨ ∃ l ∈ ls, x ∈ l := by
  induction ls with
  | nil => cases h
  | cons l ls ih =>
    cases ls with
    | nil =>
      rw [List.intercalate_singleton] at h
      exact Or.inr ⟨l, List.mem_cons_self, h⟩
    | cons l' ls =>
      rw [List.intercalate_cons_cons] at h
      rcases List.mem_append.mp h with h | h
      · rcases List.mem_append.mp h with h | h
        · exact Or.inr ⟨l, List.mem_cons_self, h⟩
        · exact Or.inl (List.mem_singleton.mp h)
      · rcases ih h with heq | ⟨k, hk, hx⟩
        · exact Or.inl heq
        · exact Or.inr ⟨k, List.mem_cons_of_mem _ hk, hx⟩

/-- Between graphic fields stand blanks, so nothing in a line breaks it. -/
theorem printable_of_graphic {fields : List String} (h : ∀ f ∈ fields, Text.Graphic f.toList)
    {c : Char} (hc : c ∈ [' '].intercalate (fields.map String.toList)) :
    32 ≤ c.toNat ∧ c.toNat ≤ 126 := by
  rcases mem_intercalate_singleton hc with rfl | ⟨cs, hcs, hc⟩
  · decide
  · obtain ⟨f, hf, rfl⟩ := List.mem_map.mp hcs
    have hgraphic := h f hf c hc
    omega

namespace Job

variable {job : Job} {b : Branch} {i : ℕ}

theorem exists_keyLine_of_draftKeys {count index : ℕ}
    (h : (job.draftKeys b count index).result = .ok ()) (j : ℕ) (hj : index ≤ j)
    (hlt : j < index + count) : ∃ text, job.keyLine b j = .ok text := by
  -- the draft goes on only behind a line, so it has one for the first key and for those behind it
  induction count generalizing index with
  | zero => omega
  | succ count ih =>
    obtain ⟨text, htext, hrest⟩ := Draft.result_bind_eq_ok h
    obtain ⟨-, -, hrest⟩ := Draft.result_bind_eq_ok hrest
    rcases Nat.eq_or_lt_of_le hj with rfl | hj
    · exact ⟨text, htext⟩
    · exact ih hrest hj (by omega)

theorem exists_keyLine_of_draft {createdAt : Instant} (h : (job.draft createdAt).result = .ok ())
    (hi : i < job.window) : ∃ text, job.keyLine b i = .ok text := by
  obtain ⟨⟨⟩, -, h⟩ := Draft.result_bind_eq_ok h
  obtain ⟨⟨⟩, -, h⟩ := Draft.result_bind_eq_ok h
  obtain ⟨⟨⟩, hexternal, h⟩ := Draft.result_bind_eq_ok h
  obtain ⟨⟨⟩, hinternal, -⟩ := Draft.result_bind_eq_ok h
  cases b with
  | external => exact exists_keyLine_of_draftKeys hexternal i (Nat.zero_le i) (by omega)
  | internal => exact exists_keyLine_of_draftKeys hinternal i (Nat.zero_le i) (by omega)

/-- A run that succeeds has a line for every key, and has written them all. -/
theorem exists_lines_of_runScript {createdAt : Instant} {sink : Sink} {summary : ScriptSummary}
    (h : (job.runScript createdAt sink).1 = .ok summary) :
    ∃ line : Branch → ℕ → String,
      (∀ b i, i < job.window → job.keyLine b i = .ok (line b i)) ∧
      (job.runScript createdAt sink).2.bytes = sink.bytes ++
        linesBytes (job.comments createdAt ++
          ((List.range job.window).map (line .external) ++
            ((List.range job.window).map (line .internal) ++ [job.rescanDirective]))) := by
  rw [runScript_eq] at h ⊢
  rcases hput : sink.put (linesBytes (job.draft createdAt).lines) with ⟨e | ⟨⟩, t⟩
  · rw [Draft.onto_of_error hput] at h
    cases h
  · rw [Draft.onto_of_ok hput] at h ⊢
    cases hr : (job.draft createdAt).result with
    | error e =>
      rw [hr] at h
      cases h
    | ok =>
      have hlines : ∀ b i, i < job.window → ∃ text, job.keyLine b i = .ok text :=
        fun b i hi => exists_keyLine_of_draft hr hi
      choose! line hline using hlines
      refine ⟨line, hline, ?_⟩
      rw [draft_of_ready createdAt hline] at hput
      exact Sink.bytes_of_put_ok hput

theorem exists_key_of_keyLine {text : String} (h : job.keyLine b i = .ok text) :
    ∃ (hi : i < indexLimit) (key : ExtendedKey),
      job.root.derive (job.plan.derivationPath.extend [b.child, ⟨i, false, hi⟩]) = .ok key ∧
      job.plan.strategy.line (key.represent job.network) ⟨job.plan.derivationPath, b, i⟩ =
        .ok text := by
  rcases Nat.lt_or_ge i indexLimit with hi | hi
  · rw [keyLine_of_lt hi] at h
    split at h
    · cases h
    · next key hkey => exact ⟨hi, key, hkey, mapError_eq_ok_iff.mp h⟩
  · rw [keyLine_of_le hi] at h
    cases h

/-- What a line tells about the key at an index of a branch, and how it is read back: the label
without its last slash is the path along which the root derives the key. -/
structure Truthful (job : Job) (account : String) (b : Branch) (i : ℕ) (line : String) : Prop where
  printable : ∀ c ∈ line.toList, 32 ≤ c.toNat ∧ c.toNat ≤ 126
  labelChar : ∀ c ∈ (labelBelow account b i).toList, LabelChar c
  readBack : ∃ path key fields,
    job.keyPath b i = .ok path ∧
    DerivationPath.parse (String.ofList (labelBelow account b i).toList.dropLast) = .ok path ∧
    job.root.derive path = .ok key ∧
    line.toList.splitOn ' ' = fields.map String.toList ∧ fields.length = 5 ∧
    LineFields (key.represent job.network) (labelBelow account b i) job.plan.strategy fields

theorem truthful_of_keyLine {text : String} (h : job.keyLine b i = .ok text) :
    job.Truthful job.plan.derivationPath.text b i text := by
  obtain ⟨hi, key, hkey, hline⟩ := exists_key_of_keyLine h
  obtain ⟨fields, hfields, htext⟩ := Strategy.exists_fields_of_line hline
  rw [KeyLabel.text_eq] at hfields
  have hlabel : ∀ c ∈ (labelBelow job.plan.derivationPath.text b i).toList, LabelChar c :=
    fun c => labelChar_of_mem_labelBelow
  have hgraphic : ∀ f ∈ fields, Text.Graphic f.toList :=
    hfields.graphic (key.graphic_represent job.network) (graphic_of_labelChar hlabel)
  have hparse : DerivationPath.parse
      (String.ofList (labelBelow job.plan.derivationPath.text b i).toList.dropLast) =
        .ok (job.plan.derivationPath.extend [b.child, ⟨i, false, hi⟩]) := by
    rw [toList_labelBelow_of_lt _ _ hi, List.dropLast_concat]
    exact DerivationPath.parse_eq_ok_iff.mpr rfl
  refine ⟨?_, hlabel, _, key, fields, keyPath_of_lt hi, hparse, hkey, ?_, hfields.length_eq,
    hfields⟩
  · rw [htext]
    intro c
    exact printable_of_graphic hgraphic
  · rw [htext]
    exact splitOn_intercalate_of_graphic hfields.ne_nil hgraphic

/-- A run that succeeds has written a line for every key, and every line tells the truth about its
key. No two labels are the same. -/
theorem runScript_truthful {account : String} {createdAt : Instant} {sink : Sink}
    {summary : ScriptSummary}
    (haccount : DerivationPath.parse account = .ok job.plan.derivationPath)
    (hrun : (job.runScript createdAt sink).1 = .ok summary) :
    ∃ line : Branch → ℕ → String,
      (job.runScript createdAt sink).2.bytes = sink.bytes ++
        linesBytes (job.comments createdAt ++
          ((List.range job.window).map (line .external) ++
            ((List.range job.window).map (line .internal) ++ [job.rescanDirective]))) ∧
      (∀ b i, i < job.window →
        job.keyLine b i = .ok (line b i) ∧ job.Truthful account b i (line b i)) ∧
      ∀ b b' i i', labelBelow account b i = labelBelow account b' i' → b = b' ∧ i = i' := by
  obtain ⟨line, hline, hbytes⟩ := exists_lines_of_runScript hrun
  refine ⟨line, hbytes, ?_, fun _ _ _ _ => labelBelow_injective⟩
  intro b i hi
  rw [DerivationPath.parse_eq_ok_iff.mp haccount]
  exact ⟨hline b i hi, truthful_of_keyLine (hline b i hi)⟩

/-- Both lines of the sample tell the truth. -/
theorem runScript_truthful_sample :
    let createdAt : Instant := ⟨0, 0, by decide, by decide, by decide, by decide⟩
    DerivationPath.parse "m" = .ok sample.plan.derivationPath ∧
    (sample.runScript createdAt {}).1 = .ok sample.summary ∧
    ∃ line : Branch → ℕ → String,
      (sample.runScript createdAt {}).2.bytes = linesBytes [header createdAt,
        Strategy.directImport.usageHint, line .external 0, line .internal 0,
        sample.rescanDirective] ∧
      ∀ b, sample.keyLine b 0 = .ok (line b 0) ∧ sample.Truthful "m" b 0 (line b 0) := by
  intro createdAt
  have haccount : DerivationPath.parse "m" = .ok sample.plan.derivationPath := by decide
  obtain ⟨_, -, hcomplete⟩ :=
    runScript_of_ready sample_tweaksValid ⟨by decide, Or.inl rfl⟩ (by decide)
  have hrun : (sample.runScript createdAt {}).1 = .ok sample.summary :=
    congrArg Prod.fst (hcomplete createdAt {} ⟨rfl, rfl⟩)
  obtain ⟨line, hbytes, hline, -⟩ := runScript_truthful haccount hrun
  exact ⟨haccount, hrun, line, hbytes, fun b => hline b 0 (by decide)⟩

end Job

end WalletRecovery
