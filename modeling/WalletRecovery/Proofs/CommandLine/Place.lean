import WalletRecovery.Proofs.CommandLine.Confidentiality
import WalletRecovery.Proofs.CommandLine.Flag
import WalletRecovery.Proofs.Time.Birthday

/-! # Where a birthday is given

A timestamp is the same birthday as the value of a flag and as a text in the settings file. So it
makes no difference to a run in which of the two places its birthday is given, if nothing else sets
one: the settings that are laid over each other are the same, and so is everything made of them. -/

namespace WalletRecovery

open Document (Value)

variable {t : Instant}

theorem Settings.overlay_withBirthday {file given : Settings} (h : given.birthday = none) :
    (file.overlay {}).overlay (given.withBirthday t) =
      ((file.withBirthday t).overlay {}).overlay given := by
  simp [overlay, withBirthday, h]

namespace CommandLine

variable {a a' : Arguments} {w w' : World} {text : String} {root : ExtendedKey}

/-- Whether the settings file that is named, if one is, holds a list of fields. -/
inductive FileHolds (a : Arguments) (folder : Folder) : List (String × Value) → Prop where
  | unnamed : a.configFile = none → FileHolds a folder []
  | document {name text : String} {bytes : List UInt8} {fields : List (String × Value)} :
      a.configFile = some name → folder.read name = .ok bytes →
      String.fromUTF8? ⟨bytes.toArray⟩ = some text → Toml.parse text = some fields →
      FileHolds a folder fields

def Arguments.unsuitable (a : Arguments) (e : Settings.ReadError) : RunError :=
  .settingsFile (a.configFile.getD "") (.unsuitable e)

theorem FileHolds.fileSettings_eq {folder : Folder} {fields : List (String × Value)}
    (h : FileHolds a folder fields) :
    a.fileSettings folder = (Settings.readFields .positional {} fields).mapError a.unsuitable := by
  cases h with
  | unnamed hnone =>
    rw [Arguments.fileSettings, hnone]
    rfl
  | @document name text bytes _ hname hread htext hparse =>
    have hcontent : Stage.settingsOfContent (folder.read name) =
        (Settings.readFields .positional {} fields).mapError .unsuitable := by
      rw [hread, Stage.settingsOfContent, Settings.ofFile, htext]
      dsimp only
      rw [Settings.ofToml, hparse]
    rw [Arguments.fileSettings, hname, Option.elim_some, hcontent]
    cases hfields : Settings.readFields .positional {} fields with
    | error e => simp only [Except.mapError, Arguments.unsuitable, hname, Option.getD_some]
    | ok s => rfl

/-- Whether two runs are told the same, but that the settings file of the second one holds a text for
the birthday. Nothing else sets one, and only the name of the file may differ besides. -/
structure DifferInPlace (text : String) (a : Arguments) (w : World) (a' : Arguments)
    (w' : World) : Prop where
  arguments : a' = { a with configFile := a'.configFile }
  unset : a.settings.birthday = none
  console : w'.console = w.console
  unasked : ∀ root c birthday, KeyStage a w.console (.ok root) c →
    BirthdayStage a c (.ok birthday) → birthday = none
  files : ∃ before behind, "birthday" ∉ (before ++ behind).map Prod.fst ∧
    FileHolds a w.folder (before ++ behind) ∧
    FileHolds a' w'.folder (before ++ ("birthday", .text text) :: behind)

theorem KeyStage.congr {c c' : Console} {r : Except RunError ExtendedKey}
    (h : KeyStage a c r c') (hroot : a'.rootKey = a.rootKey) (hnetwork : a'.network = a.network) :
    KeyStage a' c r c' := by
  cases h with
  | given htext =>
    rw [← hnetwork]
    exact .given (hroot.trans htext)
  | asked hnone hasked => exact .asked (hroot.trans hnone) (hnetwork ▸ hasked)

theorem BirthdayStage.eq_of_given {c : Console} {r : Except RunError (Option Instant)}
    (h : BirthdayStage a c r) (hgiven : a.rootKey ≠ none) : r = .ok none := by
  cases h with
  | unasked => rfl
  | noAnswer hnone | unknown hnone | known hnone => exact absurd hnone hgiven

namespace DifferInPlace

theorem network_eq (h : DifferInPlace text a w a' w') : a'.network = a.network := by
  rw [h.arguments]

theorem rootKey_eq (h : DifferInPlace text a w a' w') : a'.rootKey = a.rootKey := by
  rw [h.arguments]

theorem settings_eq (h : DifferInPlace text a w a' w') : a'.settings = a.settings := by
  rw [h.arguments]

theorem fileSettings (h : DifferInPlace text a w a' w')
    (ht : Timestamp.parseLenient text.toList = .ok t) :
    (∃ file, a.fileSettings w.folder = .ok file ∧
      a'.fileSettings w'.folder = .ok (file.withBirthday t)) ∨
    ∃ e, a.fileSettings w.folder = .error (a.unsuitable e) ∧
      a'.fileSettings w'.folder = .error (a'.unsuitable e) := by
  obtain ⟨before, behind, hnew, hfile, hfile'⟩ := h.files
  have hbehind : "birthday" ∉ behind.map Prod.fst := by
    rw [List.map_append, List.mem_append, not_or] at hnew
    exact hnew.2
  rw [hfile.fileSettings_eq, hfile'.fileSettings_eq,
    Settings.readFields_birthday (Settings.readTime_text ht) hbehind]
  cases Settings.readFields .positional {} (before ++ behind) with
  | error e => exact Or.inr ⟨e, rfl, rfl⟩
  | ok file => exact Or.inl ⟨file, rfl, rfl⟩

theorem keyStage_iff (h : DifferInPlace text a w a' w') {r : Except RunError ExtendedKey}
    {c : Console} :
    KeyStage (a.withBirthday t) w.console r c ↔ KeyStage a' w'.console r c := by
  rw [h.console]
  exact ⟨fun hkey => hkey.congr h.rootKey_eq h.network_eq,
    fun hkey => hkey.congr h.rootKey_eq.symm h.network_eq.symm⟩

theorem birthdayStage_iff (h : DifferInPlace text a w a' w') {c : Console}
    {r : Except RunError (Option Instant)} :
    BirthdayStage (a.withBirthday t) c r ↔ BirthdayStage a' c r := by
  have hgiven : a'.rootKey.isSome = (a.withBirthday t).rootKey.isSome := by rw [h.rootKey_eq]; rfl
  exact ⟨fun hbirthday => hbirthday.congr hgiven, fun hbirthday => hbirthday.congr hgiven.symm⟩

theorem prepared_iff (h : DifferInPlace text a w a' w')
    (ht : Timestamp.parseLenient text.toList = .ok t) {settings : Settings} :
    Prepared (a.withBirthday t) w root settings ↔ Prepared a' w' root settings := by
  have hnone {c : Console} {birthday : Option Instant}
      (hkey : KeyStage (a.withBirthday t) w.console (.ok root) c)
      (hbirthday : BirthdayStage (a.withBirthday t) c (.ok birthday)) : birthday = none :=
    h.unasked root c birthday (hkey.congr rfl rfl) (hbirthday.congr rfl)
  constructor
  · rintro @⟨file, _, c, birthday, hfile, hkey, hbirthday⟩
    obtain rfl := hnone hkey hbirthday
    rcases h.fileSettings ht with ⟨file₁, hfile₁, hfile'⟩ | ⟨e, hfile₁, -⟩
    · obtain rfl := Except.ok.inj (hfile.symm.trans hfile₁)
      have hprepared := Prepared.mk hfile' (h.keyStage_iff.mp hkey) (h.birthdayStage_iff.mp hbirthday)
      rw [h.settings_eq, ← Settings.overlay_withBirthday h.unset] at hprepared
      exact hprepared
    · cases hfile.symm.trans hfile₁
  · rintro @⟨file, _, c, birthday, hfile, hkey, hbirthday⟩
    have hkey₁ := h.keyStage_iff (t := t).mpr hkey
    have hbirthday₁ := h.birthdayStage_iff (t := t).mpr hbirthday
    obtain rfl := hnone hkey₁ hbirthday₁
    rcases h.fileSettings ht with ⟨file₁, hfile₁, hfile'⟩ | ⟨e, -, hfile'⟩
    · obtain rfl := Except.ok.inj (hfile.symm.trans hfile')
      rw [h.settings_eq, ← Settings.overlay_withBirthday h.unset]
      exact Prepared.mk hfile₁ hkey₁ hbirthday₁
    · cases hfile.symm.trans hfile'

theorem planned_iff (h : DifferInPlace text a w a' w')
    (ht : Timestamp.parseLenient text.toList = .ok t) {job : Job} :
    Planned (a.withBirthday t) w job ↔ Planned a' w' job := by
  constructor
  · rintro @⟨root, settings, plan, hprepared, hplan⟩
    have hplanned := Planned.mk ((h.prepared_iff ht).mp hprepared) (h.network_eq ▸ hplan)
    rw [h.network_eq] at hplanned
    exact hplanned
  · rintro @⟨root, settings, plan, hprepared, hplan⟩
    have hplanned := Planned.mk ((h.prepared_iff ht).mpr hprepared) (h.network_eq ▸ hplan)
    rw [h.network_eq]
    exact hplanned

/-- Both runs end in the same stage with the same transcript, unless they fail because of the files
and these have different names. -/
theorem staged (h : DifferInPlace text a w a' w')
    (ht : Timestamp.parseLenient text.toList = .ok t)
    (hname : a'.configFile = a.configFile ∨ ∃ file, a.fileSettings w.folder = .ok file)
    (now : Instant) :
    ∃ ending transcript, Staged (a.withBirthday t) now w ending transcript ∧
      Staged a' now w' ending transcript := by
  have hevents (root : ExtendedKey) : keyEvents (a.withBirthday t) root = keyEvents a' root := by
    rw [keyEvents, keyEvents, h.rootKey_eq]
    rfl
  obtain ⟨ending, transcript, hstaged⟩ := exists_staged (a.withBirthday t) now w
  refine ⟨ending, transcript, hstaged, ?_⟩
  have hfile' {file : Settings} (hfile : (a.withBirthday t).fileSettings w.folder = .ok file) :
      ∃ file', a'.fileSettings w'.folder = .ok file' := by
    rcases h.fileSettings ht with ⟨_, -, hfile'⟩ | ⟨e, hfile₁, -⟩
    · exact ⟨_, hfile'⟩
    · cases hfile.symm.trans hfile₁
  cases hstaged with
  | @file e hfile =>
    rcases h.fileSettings ht with ⟨_, hfile₁, -⟩ | ⟨e', hfile₁, hfile'⟩
    · cases hfile.symm.trans hfile₁
    · rcases hname with hname | ⟨_, hok⟩
      · obtain rfl := Except.error.inj (hfile.symm.trans hfile₁)
        have hsame : a'.unsuitable e' = a.unsuitable e' := by
          rw [Arguments.unsuitable, Arguments.unsuitable, hname]
        rw [hsame] at hfile'
        exact .file hfile'
      · cases hok.symm.trans hfile₁
  | key hfile hkey =>
    obtain ⟨_, hfile'⟩ := hfile' hfile
    exact .key hfile' (h.keyStage_iff.mp hkey)
  | birthday hfile hkey hbirthday =>
    obtain ⟨_, hfile'⟩ := hfile' hfile
    rw [hevents]
    exact .birthday hfile' (h.keyStage_iff.mp hkey) (h.birthdayStage_iff.mp hbirthday)
  | plan hprepared hplan =>
    rw [hevents]
    exact .plan ((h.prepared_iff ht).mp hprepared) (h.network_eq ▸ hplan)
  | script hjob =>
    rw [hevents]
    exact .script ((h.planned_iff ht).mp hjob)

end DifferInPlace

/-- A timestamp is the same birthday everywhere. It is accepted as it is typed, and it stands for
the same birthday in stored settings, whatever blanks are around it. A run that is given it by a
flag and a run that finds it in its settings file prepare the same settings for the same root key,
plan the same job and have the same outcome. -/
theorem birthday_samePlaces {text : String}
    (h : Timestamp.parseStrict (Text.trim text.toList) = .ok t) :
    Birthday.parse text = .ok t ∧ Settings.StandsForBirthday text t ∧
    ∀ (i i' : Invocation) (arguments : List String) (a a' : Arguments) (w w' : World),
      Reading.Flagged text arguments i.arguments →
      Arguments.parse arguments i.environmentValue? = .ok a →
      Arguments.parse i'.arguments i'.environmentValue? = .ok a' →
      DifferInPlace text a w a' w' →
      Arguments.parse i.arguments i.environmentValue? = .ok (a.withBirthday t) ∧
      (∀ root settings, Prepared (a.withBirthday t) w root settings ↔
        Prepared a' w' root settings) ∧
      (∀ job, Planned (a.withBirthday t) w job ↔ Planned a' w' job) ∧
      (i'.now = i.now → i'.filter = i.filter →
        (a'.configFile = a.configFile ∨ ∃ file, a.fileSettings w.folder = .ok file) →
        i'.outcome w' = i.outcome w) := by
  have ht := Timestamp.parseLenient_of_strict h
  have hparse := Birthday.parse_of_strict h
  refine ⟨hparse, Settings.standsForBirthday_of_strict h, ?_⟩
  intro i i' arguments a a' w w' hflag ha ha' hdiffer
  have hgiven := Arguments.parse_flagged hflag hparse (Timestamp.ne_cons_of_strict h) ha
    hdiffer.unset
  refine ⟨hgiven, fun _ _ => hdiffer.prepared_iff ht, fun _ => hdiffer.planned_iff ht, ?_⟩
  intro hnow hfilter hname
  obtain ⟨ending, transcript, hstaged, hstaged'⟩ := hdiffer.staged ht hname i.now
  rw [← hnow] at hstaged'
  rw [hstaged.outcome_eq hgiven, hstaged'.outcome_eq ha', hfilter]

/-- A leap second on a clock half an hour behind, with a letter in lower case, more digits than
count, a minus sign that is no hyphen, and blanks around. -/
theorem birthday_samePlaces_leapSecond :
    let text := "\u3000 2016-12-31t23:29:60.12345678999\u221200:30 "
    let document := "birthday = \"\u3000 2016-12-31t23:29:60.12345678999\u221200:30 \"\n"
    let t : Instant := ⟨1483228799, 1123456789, by decide, by decide, by decide, by decide⟩
    let run (arguments : List String) : Invocation := {
      arguments
      environment := [("KEYSWEEP_ROOTKEY", ExtendedKey.sampleRoot.text)]
      now := t }
    let a : Arguments := { rootKey := some ExtendedKey.sampleRoot.text }
    let a' : Arguments := { a with configFile := some "keysweep.toml" }
    let w : World := { folder := { files := [("keysweep.toml", utf8 document)] } }
    Birthday.parse text = .ok t ∧ Settings.ofToml document = .ok { birthday := some t } ∧
      (run ["-c", "keysweep.toml"]).outcome w = (run ["--birthday", text]).outcome {} ∧
      ∃ job, Planned (a.withBirthday t) {} job ∧ Planned a' w job ∧
        job.plan.rescanFrom = 420082 := by
  intro text document t run a a' w
  have hstrict : Timestamp.parseStrict (Text.trim text.toList) = .ok t := by decide +kernel
  obtain ⟨hparse, hstands, hruns⟩ := birthday_samePlaces hstrict
  have hdocument : Toml.parse document = some [("birthday", .text text)] := by
    let entry : Toml.Entry := ⟨"birthday", Toml.quote text, .text text⟩
    have hline : document = String.ofList ([entry].flatMap Toml.Entry.line) := by decide +kernel
    have hproper : entry.Proper :=
      ⟨by simp [entry], by simp [entry, Toml.isKeyChar], Toml.quotes_quote.stands text⟩
    rw [hline, Toml.parse_lines (List.forall_mem_singleton.mpr hproper) (by decide)]
    rfl
  have hstored : Settings.ofToml document = .ok { birthday := some t } := by
    rw [hstands.document "" document [] [] List.not_mem_nil rfl hdocument]
    rfl
  have hread : w.folder.read "keysweep.toml" = .ok (utf8 document) := by decide +kernel
  have htext : String.fromUTF8? ⟨(utf8 document).toArray⟩ = some document := by decide +kernel
  have hdiffer : DifferInPlace text a {} a' w := {
    arguments := rfl
    unset := rfl
    console := rfl
    unasked := fun _ _ _ _ hbirthday => Except.ok.inj (hbirthday.eq_of_given nofun)
    files := ⟨[], [], List.not_mem_nil, .unnamed rfl,
      .document rfl hread htext hdocument⟩ }
  have hflag : Reading.Flagged text [] ["--birthday", text] :=
    @Reading.Flagged.apart text [] [] {} rfl List.not_mem_nil
  obtain ⟨-, -, hplanned, hsame⟩ := hruns (run ["--birthday", text]) (run ["-c", "keysweep.toml"])
    [] a a' {} w hflag rfl rfl hdiffer
  obtain ⟨path, hpath⟩ := Settings.parse_assumedPath
  have hheight : Height.estimateWithMargin .bitcoin t = .ok 420082 := by decide +kernel
  have hrescan : (a.withBirthday t).settings.rescan .bitcoin = .ok (420082, .birthday) :=
    Settings.rescan_of_birthday rfl rfl hheight
  have hkey : ExtendedKey.sampleRoot.WellFormed := trivial
  have hjob : Planned (a.withBirthday t) {} ⟨ExtendedKey.sampleRoot, .bitcoin, _⟩ :=
    .mk (.mk rfl (keyStage_of_text hkey rfl rfl) (.unasked rfl))
      (Settings.resolve_of_ok hpath hrescan)
  exact ⟨hparse, hstored, hsame rfl rfl (Or.inr ⟨{}, rfl⟩), _, hjob, (hplanned _).mp hjob, rfl⟩

end CommandLine

end WalletRecovery
