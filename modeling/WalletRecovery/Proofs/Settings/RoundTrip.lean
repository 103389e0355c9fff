import WalletRecovery.Proofs.Document.Toml.Lines
import WalletRecovery.Proofs.Time.Timestamp
import WalletRecovery.Settings.File

/-! # Stored settings read back

Settings are read back from every form in which they are stored: a TOML document, however its texts
are quoted, and an object of fields. -/

namespace WalletRecovery.Settings

open Document (Value)
open Toml (Entry)

variable {q : String → List Char} {s : Settings} {style : Binary64.Style}

/-! ## Fields -/

theorem readFields_append_eq (style : Binary64.Style) (s : Settings)
    (fields others : List (String × Value)) :
    readFields style s (fields ++ others) =
      readFields style s fields >>= fun t => readFields style t others := by
  induction fields generalizing s with
  | nil => rfl
  | cons field fields ih =>
    rw [List.cons_append, readFields, readFields]
    cases readField style s field.1 field.2 with
    | error e => rfl
    | ok s => exact ih s

theorem readFields_append {t u : Settings} {fields others : List (String × Value)}
    (h : readFields style s fields = .ok t) (h' : readFields style t others = .ok u) :
    readFields style s (fields ++ others) = .ok u := by
  rw [readFields_append_eq, h]
  exact h'

theorem readText_optionalText (style : Binary64.Style) (text : Option String) :
    readText style (optionalText text) = .ok text := by
  cases text <;> rfl

theorem readNumber_toNat (style : Binary64.Style) (n : UInt32) :
    readNumber style (.integer n.toNat) = .ok n := by
  have hlt := n.toNat_lt
  rw [readNumber, if_pos ⟨by omega, by omega⟩]
  simp

theorem readTime_rfc3339 (style : Binary64.Style) (birthday : Option Instant) :
    readTime style (optionalText (birthday.map Instant.rfc3339)) = .ok birthday := by
  cases birthday with
  | none => rfl
  | some t => rw [Option.map_some, optionalText, readTime, t.parseLenient_rfc3339]

/-! ## Objects -/

theorem sortFields_toFields (s : Settings) : Document.sortFields s.toFields = [
    ("birthday", optionalText (s.birthday.map Instant.rfc3339)),
    ("derivation_path", optionalText s.derivationPath),
    ("format", optionalText s.format),
    ("recovery_window", .integer s.recoveryWindow.toNat),
    ("rescan_from", .integer s.rescanFrom.toNat)] := by
  simp +decide only [toFields, Document.sortFields, Document.insertField, List.foldl, if_true,
    if_false]

theorem ofObject_toFields (s : Settings) : ofObject s.toFields = .ok s := by
  rw [ofObject, sortFields_toFields]
  simp only [readFields, readField, readText_optionalText, readNumber_toNat, readTime_rfc3339]
  rfl

/-! ## Documents -/

def textLineWith (q : String → List Char) (key : List Char) : Option String → List Char
  | none => []
  | some s => Toml.line key (q s)

/-- Settings as a TOML text in which texts are quoted in a given way. -/
def toTomlWith (q : String → List Char) (s : Settings) : String :=
  String.ofList <|
    textLineWith q "format".toList s.format ++
    textLineWith q "derivation_path".toList s.derivationPath ++
    numberLine "recovery_window".toList s.recoveryWindow ++
    numberLine "rescan_from".toList s.rescanFrom ++
    textLineWith q "birthday".toList (s.birthday.map Instant.rfc3339)

theorem toTomlWith_quote (s : Settings) : s.toTomlWith Toml.quote = s.toToml := by
  have hline (key : List Char) (text : Option String) :
      textLineWith Toml.quote key text = textLine key text := by
    cases text <;> rfl
  rw [toTomlWith, toToml, hline, hline, hline]

def textEntries (q : String → List Char) (name : String) (text : Option String) : List Entry :=
  (text.map fun s => ⟨name, q s, .text s⟩).toList

def numberEntry (name : String) (n : UInt32) : Entry :=
  ⟨name, Numeral.decimal n.toNat, .integer n.toNat⟩

def entries (q : String → List Char) (s : Settings) : List Entry :=
  textEntries q "format" s.format ++
    textEntries q "derivation_path" s.derivationPath ++
    [numberEntry "recovery_window" s.recoveryWindow] ++
    [numberEntry "rescan_from" s.rescanFrom] ++
    textEntries q "birthday" (s.birthday.map Instant.rfc3339)

def names : List String :=
  ["format", "derivation_path", "recovery_window", "rescan_from", "birthday"]

theorem line_textEntries (q : String → List Char) (name : String) (text : Option String) :
    (textEntries q name text).flatMap Entry.line = textLineWith q name.toList text := by
  cases text with
  | none => rfl
  | some s => exact List.append_nil _

theorem toTomlWith_eq (q : String → List Char) (s : Settings) :
    s.toTomlWith q = String.ofList ((s.entries q).flatMap Entry.line) := by
  simp only [entries, List.flatMap_append, line_textEntries, List.flatMap_singleton]
  rfl

theorem name_textEntries (q : String → List Char) (name : String) (text : Option String) :
    ((textEntries q name text).map Entry.name).Sublist [name] := by
  cases text with
  | none => exact List.nil_sublist _
  | some s => exact List.Sublist.refl _

/-- Settings that are left open have no line, and neither has a birthday that is. -/
theorem name_entriesWith (q : String → List Char) (s : Settings) (birthday : Option String) :
    ((textEntries q "format" s.format ++ textEntries q "derivation_path" s.derivationPath ++
      [numberEntry "recovery_window" s.recoveryWindow] ++
      [numberEntry "rescan_from" s.rescanFrom] ++
      textEntries q "birthday" birthday).map Entry.name).Sublist names := by
  simp only [List.map_append]
  exact ((((name_textEntries q "format" _).append (name_textEntries q "derivation_path" _)).append
    (List.Sublist.refl ["recovery_window"])).append (List.Sublist.refl ["rescan_from"])).append
    (name_textEntries q "birthday" _)

theorem name_entries (q : String → List Char) (s : Settings) :
    ((s.entries q).map Entry.name).Sublist names :=
  name_entriesWith q s _

theorem stands_numberEntry (name : String) (n : UInt32) :
    Toml.Stands (numberEntry name n).text (numberEntry name n).value := by
  have hlt := n.toNat_lt
  have hstands := Toml.stands_plain (Numeral.plain_decimal n.toNat)
  rw [Numeral.ofDecimal_decimal] at hstands
  exact hstands (by omega)

theorem stands_textEntries (hq : Toml.Quotes q) {name : String} {text : Option String} :
    ∀ e ∈ textEntries q name text, Toml.Stands e.text e.value := by
  intro e he
  cases text with
  | none => cases he
  | some s =>
    obtain rfl := List.mem_singleton.mp he
    exact hq.stands s

theorem proper_entries (hq : Toml.Quotes q) (s : Settings) : ∀ e ∈ s.entries q, e.Proper := by
  have hkey : ∀ name ∈ names, name.toList ≠ [] ∧ ∀ c ∈ name.toList, Toml.isKeyChar c = true := by
    simp [names, Toml.isKeyChar]
  intro e he
  obtain ⟨hne, hchars⟩ := hkey e.name ((name_entries q s).subset (List.mem_map_of_mem he))
  refine ⟨hne, hchars, ?_⟩
  simp only [entries, List.mem_append, List.mem_singleton] at he
  rcases he with (((he | he) | rfl) | rfl) | he
  · exact stands_textEntries hq e he
  · exact stands_textEntries hq e he
  · exact stands_numberEntry _ _
  · exact stands_numberEntry _ _
  · exact stands_textEntries hq e he

theorem readFields_textEntries {name : String} (h : readField style s name .null = .ok s)
    (text : Option String) :
    readFields style s ((textEntries q name text).map Entry.field) =
      readField style s name (optionalText text) := by
  cases text with
  | none => exact h.symm
  | some text => exact bind_pure _

theorem readFields_numberEntry (style : Binary64.Style) (s : Settings) (name : String)
    (n : UInt32) :
    readFields style s ([numberEntry name n].map Entry.field) =
      readField style s name (.integer n.toNat) :=
  bind_pure _

/-- The lines are read one after the other, each into its setting. -/
theorem readFields_entries (style : Binary64.Style) (q : String → List Char) (s : Settings) :
    readFields style {} ((s.entries q).map Entry.field) = .ok s := by
  obtain ⟨format, path, window, height, birthday⟩ := s
  have hformat : readFields style {} ((textEntries q "format" format).map Entry.field) =
      .ok ⟨format, none, 0, 0, none⟩ := by
    rw [readFields_textEntries rfl, readField, readText_optionalText]
    rfl
  have hpath : readFields style ⟨format, none, 0, 0, none⟩
      ((textEntries q "derivation_path" path).map Entry.field) =
      .ok ⟨format, path, 0, 0, none⟩ := by
    rw [readFields_textEntries rfl, readField, readText_optionalText]
    rfl
  have hwindow : readFields style ⟨format, path, 0, 0, none⟩
      ([numberEntry "recovery_window" window].map Entry.field) =
      .ok ⟨format, path, window, 0, none⟩ := by
    rw [readFields_numberEntry, readField, readNumber_toNat]
    rfl
  have hheight : readFields style ⟨format, path, window, 0, none⟩
      ([numberEntry "rescan_from" height].map Entry.field) =
      .ok ⟨format, path, window, height, none⟩ := by
    rw [readFields_numberEntry, readField, readNumber_toNat]
    rfl
  have hbirthday : readFields style ⟨format, path, window, height, none⟩
      ((textEntries q "birthday" (birthday.map Instant.rfc3339)).map Entry.field) =
      .ok ⟨format, path, window, height, birthday⟩ := by
    rw [readFields_textEntries rfl, readField, readTime_rfc3339]
    rfl
  simp only [entries, List.map_append]
  exact readFields_append
    (readFields_append (readFields_append (readFields_append hformat hpath) hwindow) hheight)
    hbirthday

theorem ofToml_toTomlWith (hq : Toml.Quotes q) (s : Settings) :
    ofToml (s.toTomlWith q) = .ok s := by
  have hdistinct : ((s.entries q).map Entry.name).Nodup :=
    (name_entries q s).nodup (by decide)
  rw [toTomlWith_eq, ofToml, Toml.parse_lines (proper_entries hq s) hdistinct]
  dsimp only
  rw [readFields_entries]
  rfl

/-! ## Both forms -/

/-- Settings are read back from a document, with its texts quoted in the way of the library or in
any other that readers undo, and from an object. -/
theorem stored_readsBack (s : Settings) :
    ofToml s.toToml = .ok s ∧
      (∀ q, Toml.Quotes q → ofToml (s.toTomlWith q) = .ok s) ∧
      ofObject s.toFields = .ok s := by
  refine ⟨?_, fun q hq => ofToml_toTomlWith hq s, ofObject_toFields s⟩
  rw [← toTomlWith_quote]
  exact ofToml_toTomlWith Toml.quotes_quote s

def leapBirthday : Instant where
  seconds := -62167219201
  nanos := 1500000000
  first_le := by decide
  le_last := by decide
  nanos_lt := by decide
  leap _ := by decide

example : leapBirthday.rfc3339 = "-0001-12-31T23:59:60.500Z" := by decide

/-- Settings with a path that has to be quoted and a birthday in a leap second. -/
theorem stored_readsBack_leapBirthday :
    let s : Settings := { derivationPath := some "m\"\\\n", birthday := some leapBirthday }
    Toml.Quotes Toml.quote ∧ ofToml s.toToml = .ok s ∧
      ofToml (s.toTomlWith Toml.quote) = .ok s ∧ ofObject s.toFields = .ok s := by
  intro s
  obtain ⟨htoml, hquoted, hobject⟩ := stored_readsBack s
  exact ⟨Toml.quotes_quote, htoml, hquoted Toml.quote Toml.quotes_quote, hobject⟩

end WalletRecovery.Settings
