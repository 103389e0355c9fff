import WalletRecovery.Proofs.Settings.RoundTrip
import WalletRecovery.Proofs.Time.Tolerance

/-! # Stored birthdays

A birthday that is stored as a text is read into its own place: the other settings are the same with
it and without it, wherever it stands among them. Every timestamp that people may type is a text for
the birthday of stored settings too. -/

namespace WalletRecovery

namespace Document

variable {f g other : String × Value} {l : List (String × Value)}

theorem insertField_of_lt (h : f.1 < other.1) :
    insertField f (other :: l) = f :: other :: l := by
  have hne : f.1 ≠ other.1 := by
    intro heq
    rw [heq] at h
    exact String.lt_irrefl _ h
  rw [insertField, if_neg hne, if_pos h]

theorem insertField_of_eq (h : f.1 = other.1) : insertField f (other :: l) = f :: l := by
  rw [insertField, if_pos h]

theorem insertField_of_gt (h : other.1 < f.1) :
    insertField f (other :: l) = other :: insertField f l := by
  have hne : f.1 ≠ other.1 := by
    intro heq
    rw [heq] at h
    exact String.lt_irrefl _ h
  rw [insertField, if_neg hne, if_neg (String.lt_asymm h)]

theorem insertField_comm_of_lt (h : f.1 < g.1) (l : List (String × Value)) :
    insertField f (insertField g l) = insertField g (insertField f l) := by
  induction l with
  | nil =>
    rw [insertField, insertField_of_lt h, insertField, insertField_of_gt h]
    rfl
  | cons other l ih =>
    -- the smaller field decides: only behind it does the place of the other one matter
    rcases Std.lt_trichotomy f.1 other.1 with hf | hf | hf
    · rw [insertField_of_lt hf, insertField_of_gt h]
      rcases Std.lt_trichotomy g.1 other.1 with hg | hg | hg
      · rw [insertField_of_lt hg, insertField_of_lt h]
      · rw [insertField_of_eq hg, insertField_of_lt h]
      · rw [insertField_of_gt hg, insertField_of_lt hf]
    · have hg : other.1 < g.1 := hf ▸ h
      rw [insertField_of_gt hg, insertField_of_eq hf, insertField_of_eq hf, insertField_of_gt h]
    · have hg : other.1 < g.1 := String.lt_trans hf h
      rw [insertField_of_gt hg, insertField_of_gt hf, insertField_of_gt hf, insertField_of_gt hg,
        ih]

theorem insertField_comm (h : f.1 ≠ g.1) (l : List (String × Value)) :
    insertField f (insertField g l) = insertField g (insertField f l) := by
  rcases Std.lt_trichotomy f.1 g.1 with hlt | heq | hlt
  · exact insertField_comm_of_lt hlt l
  · exact absurd heq h
  · exact (insertField_comm_of_lt hlt l).symm

theorem sortFields_concat (fields : List (String × Value)) (f : String × Value) :
    sortFields (fields ++ [f]) = insertField f (sortFields fields) := by
  rw [sortFields, List.foldl_append]
  rfl

/-- A field that is new to sorted fields is put somewhere between them. -/
theorem insertField_of_new (h : f.1 ∉ l.map Prod.fst) :
    ∃ before behind, l = before ++ behind ∧ insertField f l = before ++ f :: behind := by
  induction l with
  | nil => exact ⟨[], [], rfl, rfl⟩
  | cons other l ih =>
    rw [List.map_cons, List.mem_cons, not_or] at h
    rw [insertField, if_neg h.1]
    split
    · exact ⟨[], other :: l, rfl, rfl⟩
    · obtain ⟨before, behind, rfl, hinsert⟩ := ih h.2
      exact ⟨other :: before, behind, rfl, by rw [hinsert]; rfl⟩

theorem name_mem_of_insertField {name : String} (h : name ∈ (insertField f l).map Prod.fst) :
    name = f.1 ∨ name ∈ l.map Prod.fst := by
  induction l with
  | nil => exact Or.inl (List.mem_singleton.mp h)
  | cons other l ih =>
    rw [insertField] at h
    split at h
    · next heq =>
      rw [List.map_cons, heq] at h
      exact Or.inr h
    split at h
    · exact List.mem_cons.mp h
    · rw [List.map_cons, List.mem_cons] at h ⊢
      rcases h with h | h
      · exact Or.inr (Or.inl h)
      · exact (ih h).imp_right Or.inr

theorem name_mem_of_sortFields {name : String} {fields : List (String × Value)}
    (h : name ∈ (sortFields fields).map Prod.fst) : name ∈ fields.map Prod.fst := by
  induction fields using List.reverseRecOn with
  | nil => exact h
  | append_singleton fields f ih =>
    rw [sortFields_concat] at h
    rw [List.map_append, List.mem_append]
    rcases name_mem_of_insertField h with rfl | h
    · exact Or.inr (List.mem_singleton.mpr rfl)
    · exact Or.inl (ih h)

/-- It does not matter where in an object a field stands. -/
theorem sortFields_append_cons {before behind : List (String × Value)}
    (h : f.1 ∉ behind.map Prod.fst) :
    sortFields (before ++ f :: behind) = insertField f (sortFields (before ++ behind)) := by
  induction behind using List.reverseRecOn with
  | nil => rw [List.append_nil, sortFields_concat]
  | append_singleton behind g ih =>
    rw [List.map_append, List.mem_append, not_or] at h
    have hne : f.1 ≠ g.1 := fun heq => h.2 (List.mem_singleton.mpr heq)
    rw [← List.cons_append, ← List.append_assoc, ← List.append_assoc, sortFields_concat,
      sortFields_concat, ih h.1, insertField_comm hne]

end Document

namespace Settings

open Document (Value)

variable {style : Binary64.Style} {name text : String} {v : Value} {t : Instant} {s : Settings}
  {before behind fields : List (String × Value)}

def withBirthday (s : Settings) (t : Instant) : Settings :=
  { s with birthday := some t }

theorem readField_withBirthday (h : name ≠ "birthday") :
    readField style (s.withBirthday t) name v =
      (readField style s name v).map (·.withBirthday t) := by
  rw [readField.eq_def, readField.eq_def]
  split
  · cases readText style v <;> rfl
  · cases readText style v <;> rfl
  · cases readNumber style v <;> rfl
  · cases readNumber style v <;> rfl
  · exact absurd rfl h
  · rfl

theorem readFields_withBirthday (h : "birthday" ∉ fields.map Prod.fst) :
    readFields style (s.withBirthday t) fields =
      (readFields style s fields).map (·.withBirthday t) := by
  induction fields generalizing s with
  | nil => rfl
  | cons field fields ih =>
    rw [List.map_cons, List.mem_cons, not_or] at h
    rw [readFields, readFields, readField_withBirthday (Ne.symm h.1)]
    cases readField style s field.1 field.2 with
    | error e => rfl
    | ok s => exact ih h.2

/-- A birthday among other fields changes the birthday only, and no report of another field. -/
theorem readFields_birthday (hv : readTime style v = .ok (some t))
    (h : "birthday" ∉ behind.map Prod.fst) :
    readFields style s (before ++ ("birthday", v) :: behind) =
      (readFields style s (before ++ behind)).map (·.withBirthday t) := by
  rw [readFields_append_eq, readFields_append_eq]
  cases readFields style s before with
  | error e => rfl
  | ok s =>
    have hfield : readField style s "birthday" v = .ok (s.withBirthday t) := by
      rw [readField, hv]
      rfl
    change readFields style s (("birthday", v) :: behind) = (readFields style s behind).map _
    rw [readFields, hfield]
    exact readFields_withBirthday h

/-- Whether a text stands for a birthday in stored settings. Beside any other fields, fit or not, it
gives the birthday and nothing else: in a document, in an object, and on a line of its own in a
document of settings, however it is quoted there. -/
structure StandsForBirthday (text : String) (t : Instant) : Prop where
  document : ∀ document document' before behind, "birthday" ∉ behind.map Prod.fst →
    Toml.parse document = some (before ++ behind) →
    Toml.parse document' = some (before ++ ("birthday", .text text) :: behind) →
    ofToml document' = (ofToml document).map (·.withBirthday t)
  object : ∀ before behind, "birthday" ∉ (before ++ behind).map Prod.fst →
    ofObject (before ++ ("birthday", .text text) :: behind) =
      (ofObject (before ++ behind)).map (·.withBirthday t)
  line : ∀ (s : Settings) (q : String → List Char), s.birthday = none → Toml.Quotes q →
    ofToml (s.toTomlWith q ++ String.ofList (Toml.line "birthday".toList (q text))) =
      .ok (s.withBirthday t)

theorem readTime_text (h : Timestamp.parseLenient text.toList = .ok t) :
    readTime style (.text text) = .ok (some t) := by
  rw [readTime, h]

theorem name_entries_birthday {q : String → List Char} (hs : s.birthday = none) (text : String) :
    ((s.entries q ++ textEntries q "birthday" (some text)).map Toml.Entry.name).Sublist names := by
  have hnone : textEntries q "birthday" (s.birthday.map Instant.rfc3339) = [] := by
    rw [hs]
    rfl
  rw [entries, hnone, List.append_nil]
  exact name_entriesWith q s (some text)

theorem ofToml_birthdayLine (h : Timestamp.parseLenient text.toList = .ok t)
    (hs : s.birthday = none) {q : String → List Char} (hq : Toml.Quotes q) :
    ofToml (s.toTomlWith q ++ String.ofList (Toml.line "birthday".toList (q text))) =
      .ok (s.withBirthday t) := by
  have hkey : "birthday".toList ≠ [] ∧ ∀ c ∈ "birthday".toList, Toml.isKeyChar c = true := by
    simp [Toml.isKeyChar]
  have hproper : ∀ e ∈ s.entries q ++ textEntries q "birthday" (some text), e.Proper := by
    intro e he
    rcases List.mem_append.mp he with he | he
    · exact proper_entries hq s e he
    · obtain rfl := List.mem_singleton.mp he
      exact ⟨hkey.1, hkey.2, hq.stands text⟩
  have hdocument :
      Toml.parse (s.toTomlWith q ++ String.ofList (Toml.line "birthday".toList (q text))) =
        some ((s.entries q).map Toml.Entry.field ++ [("birthday", .text text)]) := by
    have hparse := Toml.parse_lines hproper ((name_entries_birthday hs text).nodup (by decide))
    rw [List.flatMap_append, String.ofList_append, ← toTomlWith_eq, line_textEntries,
      List.map_append] at hparse
    exact hparse
  have hfields : readFields .positional {} ((s.entries q).map Toml.Entry.field ++
      [("birthday", .text text)]) = .ok (s.withBirthday t) := by
    rw [readFields_birthday (readTime_text h) List.not_mem_nil, List.append_nil,
      readFields_entries]
    rfl
  rw [ofToml, hdocument]
  dsimp only
  rw [hfields]
  rfl

/-- Every timestamp that is accepted as it is typed, with or without blanks around it, stands for
the same birthday in stored settings. -/
theorem standsForBirthday_of_strict
    (h : Timestamp.parseStrict (Text.trim text.toList) = .ok t) : StandsForBirthday text t := by
  have hlenient := Timestamp.parseLenient_of_strict h
  refine ⟨?_, ?_, fun s q hs hq => ofToml_birthdayLine hlenient hs hq⟩
  · intro document document' before behind hbehind hdocument hdocument'
    rw [ofToml, ofToml, hdocument, hdocument']
    dsimp only
    rw [readFields_birthday (readTime_text hlenient) hbehind]
    cases readFields .positional {} (before ++ behind) <;> rfl
  · intro before behind hnew
    have hbehind : "birthday" ∉ behind.map Prod.fst := by
      rw [List.map_append, List.mem_append, not_or] at hnew
      exact hnew.2
    obtain ⟨before', behind', hsorted, hinserted⟩ :=
      Document.insertField_of_new (f := ("birthday", Value.text text))
        (fun hmem => hnew (Document.name_mem_of_sortFields hmem))
    rw [ofObject, ofObject, Document.sortFields_append_cons hbehind, hinserted, hsorted,
      readFields_birthday (readTime_text hlenient)]
    intro hmem
    apply hnew
    apply Document.name_mem_of_sortFields
    rw [hsorted, List.map_append, List.mem_append]
    exact Or.inr hmem

end Settings

end WalletRecovery
