import WalletRecovery.Proofs.Path.Grammar
import WalletRecovery.Proofs.Settings.RescanHeight

/-! # What settings choose

Every part of a plan is chosen by settings of its own: the format by a name, the path by its text,
the window by a number, and the height by a number and a birthday. Settings make a plan exactly if
all parts can be chosen, and they are refused for the path before they are for the height. -/

namespace WalletRecovery.Settings

inductive ChoosesFormat : Option String → Strategy → Prop where
  | unnamed : ChoosesFormat none .directImport
  | named (format : Strategy) : ChoosesFormat (some format.selector) format
  | unknown {name : String} : (∀ format : Strategy, format.selector ≠ name) →
      ChoosesFormat (some name) .directImport

inductive ChoosesPath : Option String → String → Prop where
  | absent : ChoosesPath none "m/84'/0'/0'"
  | empty : ChoosesPath (some "") "m/84'/0'/0'"
  | given {text : String} : text ≠ "" → ChoosesPath (some text) text

inductive ChoosesWindow : UInt32 → UInt32 → Prop where
  | unset : ChoosesWindow 0 2500
  | given {window : UInt32} : window ≠ 0 → ChoosesWindow window window

/-- The height that a number and an optional birthday choose, and where it is from. -/
inductive ChoosesHeight (n : Network) :
    UInt32 → Option Instant → UInt32 → RescanSource → Prop where
  | given {height : UInt32} (birthday : Option Instant) : height ≠ 0 →
      ChoosesHeight n height birthday height .explicit
  | estimated {t : Instant} {height : UInt32} : Height.estimateWithMargin n t = .ok height →
      height ≠ 0 → ChoosesHeight n 0 (some t) height .birthday
  | tooEarly {t : Instant} : Height.estimateWithMargin n t = .ok 0 →
      ChoosesHeight n 0 (some t) 500000 .assumed
  | unknown : ChoosesHeight n 0 none 500000 .assumed

/-- Whether a plan is what settings choose. -/
structure Makes (s : Settings) (n : Network) (plan : Plan) : Prop where
  format : ChoosesFormat s.format plan.strategy
  path : ChoosesPath s.derivationPath plan.derivationPath.text
  window : ChoosesWindow s.recoveryWindow plan.recoveryWindow
  height : ChoosesHeight n s.rescanFrom s.birthday plan.rescanFrom plan.rescanSource

/-- Why settings make no plan. The path is looked at first. -/
inductive Refused (s : Settings) (n : Network) : PlanError → Prop where
  | malformed {text : String} {e : PathError} : ChoosesPath s.derivationPath text →
      DerivationPath.parse text = .error e → Refused s n (.malformedPath e)
  | noHeight {text : String} {t : Instant} : ChoosesPath s.derivationPath text →
      PathText text.toList → s.rescanFrom = 0 → s.birthday = some t →
      n ∉ [.bitcoin, .testnet, .regtest] → Refused s n (.noHeight (.unknownNetwork n))

variable {s t : Settings} {n : Network} {plan : Plan}

theorem rescan_of_unknown (h : s.rescanFrom = 0) (hb : s.birthday = none) :
    s.rescan n = .ok (assumedHeight, .assumed) := by
  simp only [rescan, h, hb]
  rfl

theorem rescan_of_noEstimate {u : Instant} {e : HeightError} (h : s.rescanFrom = 0)
    (hb : s.birthday = some u) (he : Height.estimateWithMargin n u = .error e) :
    s.rescan n = .error e := by
  simp only [rescan, h, hb, he]
  rfl

theorem ofSelector_of_unknown {name : String} (h : ∀ format : Strategy, format.selector ≠ name) :
    Strategy.ofSelector name = .directImport := by
  have hnone : Strategy.all.find? (fun format => format.selector = name) = none := by
    rw [List.find?_eq_none]
    intro format _
    simpa using h format
  rw [Strategy.ofSelector, hnone]
  rfl

theorem choosesFormat_iff {format : Strategy} :
    ChoosesFormat s.format format ↔ s.strategy = format := by
  rw [strategy]
  generalize s.format = name
  constructor
  · intro h
    cases h with
    | unnamed => rfl
    | named => exact Strategy.ofSelector_selector format
    | unknown hname => exact ofSelector_of_unknown hname
  · rintro rfl
    cases name with
    | none => exact .unnamed
    | some name =>
      rw [Option.map_some, Option.getD_some]
      by_cases hname : ∃ format : Strategy, format.selector = name
      · obtain ⟨format, rfl⟩ := hname
        rw [Strategy.ofSelector_selector]
        exact .named format
      · rw [not_exists] at hname
        rw [ofSelector_of_unknown hname]
        exact .unknown hname

theorem choosesPath_iff {text : String} :
    ChoosesPath s.derivationPath text ↔ s.pathText = text := by
  rw [pathText]
  generalize s.derivationPath = path
  constructor
  · intro h
    cases h with
    | absent => rfl
    | empty => rfl
    | given hne => exact if_neg hne
  · rintro rfl
    cases path with
    | none => exact .absent
    | some text =>
      by_cases hempty : text = ""
      · subst hempty
        exact .empty
      · dsimp only
        rw [if_neg hempty]
        exact .given hempty

theorem choosesWindow_iff {window : UInt32} :
    ChoosesWindow s.recoveryWindow window ↔ s.window = window := by
  rw [Settings.window]
  constructor
  · intro h
    generalize s.recoveryWindow = given at h ⊢
    cases h with
    | unset => rfl
    | given hne => exact if_neg hne
  · rintro rfl
    by_cases hzero : s.recoveryWindow = 0
    · rw [if_pos hzero, hzero]
      exact .unset
    · rw [if_neg hzero]
      exact .given hzero

theorem choosesHeight_iff {height : UInt32} {source : RescanSource} :
    ChoosesHeight n s.rescanFrom s.birthday height source ↔
      s.rescan n = .ok (height, source) := by
  constructor
  · intro h
    generalize hgiven : s.rescanFrom = given at h
    generalize hbirthday : s.birthday = birthday at h
    cases h with
    | given _ hne =>
      subst hgiven
      rw [rescan, if_pos hne]
    | estimated hmargin hne => rw [rescan_of_birthday hgiven hbirthday hmargin, if_neg hne]
    | tooEarly hmargin =>
      rw [rescan_of_birthday hgiven hbirthday hmargin, if_pos rfl]
      rfl
    | unknown =>
      rw [rescan_of_unknown hgiven hbirthday]
      rfl
  · intro h
    by_cases hgiven : s.rescanFrom = 0
    · cases hbirthday : s.birthday with
      | none =>
        rw [rescan_of_unknown hgiven hbirthday] at h
        obtain ⟨rfl, rfl⟩ := Prod.mk.inj (Except.ok.inj h)
        rw [hgiven]
        exact .unknown
      | some t =>
        cases hmargin : Height.estimateWithMargin n t with
        | error e =>
          rw [rescan_of_noEstimate hgiven hbirthday hmargin] at h
          cases h
        | ok margin =>
          rw [rescan_of_birthday hgiven hbirthday hmargin] at h
          rw [hgiven]
          by_cases hzero : margin = 0
          · rw [if_pos hzero] at h
            obtain ⟨rfl, rfl⟩ := Prod.mk.inj (Except.ok.inj h)
            exact .tooEarly (hzero ▸ hmargin)
          · rw [if_neg hzero] at h
            obtain ⟨rfl, rfl⟩ := Prod.mk.inj (Except.ok.inj h)
            exact .estimated hmargin hzero
    · rw [rescan, if_pos hgiven] at h
      obtain ⟨rfl, rfl⟩ := Prod.mk.inj (Except.ok.inj h)
      exact .given _ hgiven

theorem resolve_eq_ok_iff : s.resolve n = .ok plan ↔ s.Makes n plan := by
  constructor
  · intro h
    obtain ⟨hpath, hheight, hformat, hwindow⟩ := resolve_eq_ok h
    refine ⟨choosesFormat_iff.mpr hformat.symm, ?_, choosesWindow_iff.mpr hwindow.symm,
      choosesHeight_iff.mpr hheight⟩
    exact choosesPath_iff.mpr (DerivationPath.parse_eq_ok_iff.mp hpath)
  · rintro ⟨hformat, hpath, hwindow, hheight⟩
    have hparse := DerivationPath.parse_eq_ok_iff.mpr (choosesPath_iff.mp hpath)
    rw [resolve_of_ok hparse (choosesHeight_iff.mp hheight), choosesFormat_iff.mp hformat,
      choosesWindow_iff.mp hwindow]

theorem estimateWithMargin_eq_error_iff {u : Instant} {e : HeightError} :
    Height.estimateWithMargin n u = .error e ↔
      n ∉ [.bitcoin, .testnet, .regtest] ∧ e = .unknownNetwork n := by
  cases n <;> simp [Height.estimateWithMargin, Height.estimate, Height.pace, eq_comm]

theorem rescan_eq_error_iff {e : HeightError} :
    s.rescan n = .error e ↔ s.rescanFrom = 0 ∧ (∃ u, s.birthday = some u) ∧
      n ∉ [.bitcoin, .testnet, .regtest] ∧ e = .unknownNetwork n := by
  constructor
  · intro h
    by_cases hgiven : s.rescanFrom = 0
    · cases hbirthday : s.birthday with
      | none =>
        rw [rescan_of_unknown hgiven hbirthday] at h
        cases h
      | some u =>
        cases hmargin : Height.estimateWithMargin n u with
        | ok margin =>
          rw [rescan_of_birthday hgiven hbirthday hmargin] at h
          cases h
        | error e' =>
          rw [rescan_of_noEstimate hgiven hbirthday hmargin] at h
          obtain rfl := Except.error.inj h
          exact ⟨hgiven, ⟨u, rfl⟩, estimateWithMargin_eq_error_iff.mp hmargin⟩
    · rw [rescan, if_pos hgiven] at h
      cases h
  · rintro ⟨hgiven, ⟨u, hbirthday⟩, hn⟩
    exact rescan_of_noEstimate hgiven hbirthday (estimateWithMargin_eq_error_iff.mpr hn)

theorem resolve_eq_error_iff {e : PlanError} : s.resolve n = .error e ↔ s.Refused n e := by
  have hpath : ChoosesPath s.derivationPath s.pathText := choosesPath_iff.mpr rfl
  constructor
  · intro h
    cases hparse : DerivationPath.parse s.pathText with
    | error e' =>
      rw [resolve_of_malformed hparse] at h
      obtain rfl := Except.error.inj h
      exact .malformed hpath hparse
    | ok p =>
      rcases hrescan : s.rescan n with e' | ⟨height, source⟩
      · rw [resolve_of_noHeight hparse hrescan] at h
        obtain rfl := Except.error.inj h
        obtain ⟨hgiven, ⟨u, hbirthday⟩, hn, rfl⟩ := rescan_eq_error_iff.mp hrescan
        exact .noHeight hpath (DerivationPath.exists_parse_iff.mp ⟨p, hparse⟩) hgiven hbirthday hn
      · rw [resolve_of_ok hparse hrescan] at h
        cases h
  · intro h
    cases h with
    | malformed hchosen hparse =>
      obtain rfl := choosesPath_iff.mp hchosen
      exact resolve_of_malformed hparse
    | noHeight hchosen htext hgiven hbirthday hn =>
      obtain rfl := choosesPath_iff.mp hchosen
      obtain ⟨p, hparse⟩ := DerivationPath.exists_parse_iff.mpr htext
      exact resolve_of_noHeight hparse
        (rescan_eq_error_iff.mpr ⟨hgiven, ⟨_, hbirthday⟩, hn, rfl⟩)

theorem exists_resolve_iff : (∃ plan, s.resolve n = .ok plan) ↔
    (∃ text, ChoosesPath s.derivationPath text ∧ PathText text.toList) ∧
    (s.rescanFrom = 0 → s.birthday ≠ none → n ∈ [.bitcoin, .testnet, .regtest]) := by
  constructor
  · rintro ⟨plan, h⟩
    obtain ⟨hparse, hrescan, -, -⟩ := resolve_eq_ok h
    refine ⟨⟨_, choosesPath_iff.mpr rfl, DerivationPath.exists_parse_iff.mp ⟨_, hparse⟩⟩, ?_⟩
    intro hgiven hbirthday
    by_contra hn
    rw [rescan_eq_error_iff.mpr ⟨hgiven, Option.ne_none_iff_exists'.mp hbirthday, hn, rfl⟩] at hrescan
    cases hrescan
  · rintro ⟨⟨text, hchosen, htext⟩, hheight⟩
    cases hplan : s.resolve n with
    | ok plan => exact ⟨plan, rfl⟩
    | error e =>
      cases resolve_eq_error_iff.mp hplan with
      | malformed hchosen' hparse =>
        obtain rfl := choosesPath_iff.mp hchosen
        obtain rfl := choosesPath_iff.mp hchosen'
        obtain ⟨p, hp⟩ := DerivationPath.exists_parse_iff.mpr htext
        rw [hparse] at hp
        cases hp
      | noHeight _ _ hgiven hbirthday hn =>
        exact absurd (hheight hgiven (by rw [hbirthday]; exact nofun)) hn

theorem plan_ext {plan plan' : Plan} (hformat : plan'.strategy = plan.strategy)
    (hpath : plan'.derivationPath = plan.derivationPath)
    (hwindow : plan'.recoveryWindow = plan.recoveryWindow)
    (hheight : plan'.rescanFrom = plan.rescanFrom ∧ plan'.rescanSource = plan.rescanSource) :
    plan' = plan := by
  cases plan
  cases plan'
  simp_all

theorem ChoosesWindow.ne_zero {given window : UInt32} (h : ChoosesWindow given window) :
    window ≠ 0 := by
  cases h with
  | unset => decide
  | given hne => exact hne

namespace ChoosesHeight

variable {given height : UInt32} {birthday : Option Instant} {source : RescanSource}

theorem ne_zero (h : ChoosesHeight n given birthday height source) : height ≠ 0 := by
  cases h with
  | given _ hne | estimated _ hne => exact hne
  | tooEarly | unknown => decide

theorem explicit_iff (h : ChoosesHeight n given birthday height source) :
    source = .explicit ↔ given ≠ 0 := by
  cases h with
  | given _ hne => exact iff_of_true rfl hne
  | estimated | tooEarly | unknown => exact iff_of_false nofun (not_not_intro rfl)

theorem birthday_iff (h : ChoosesHeight n given birthday height source) :
    source = .birthday ↔ given = 0 ∧ ∃ u margin, birthday = some u ∧
      Height.estimateWithMargin n u = .ok margin ∧ margin ≠ 0 := by
  cases h with
  | given _ hne => exact iff_of_false nofun fun hzero => hne hzero.1
  | estimated hmargin hne => exact iff_of_true rfl ⟨rfl, _, _, rfl, hmargin, hne⟩
  | tooEarly hmargin =>
    refine iff_of_false nofun ?_
    rintro ⟨-, u, margin, hu, hmargin', hne⟩
    obtain rfl := Option.some.inj hu
    exact hne (Except.ok.inj (hmargin'.symm.trans hmargin))
  | unknown =>
    refine iff_of_false nofun ?_
    rintro ⟨-, u, margin, hu, -⟩
    cases hu

end ChoosesHeight

theorem resolve_of_unknownFormat {name : String}
    (h : ∀ format : Strategy, format.selector ≠ name) (s : Settings) (n : Network) :
    { s with format := some name }.resolve n = { s with format := none }.resolve n := by
  have hformat : { s with format := some name }.strategy = { s with format := none }.strategy :=
    ofSelector_of_unknown h
  exact (@resolve_eq_resolve_iff { s with format := some name } n { s with format := none }
    rfl rfl).mpr ⟨Or.inl rfl, Or.inl hformat⟩

theorem parts_eq_of_resolve {plan' : Plan} (h : s.resolve n = .ok plan)
    (h' : t.resolve n = .ok plan') :
    (s.format = t.format → plan.strategy = plan'.strategy) ∧
    (s.derivationPath = t.derivationPath → plan.derivationPath = plan'.derivationPath) ∧
    (s.recoveryWindow = t.recoveryWindow → plan.recoveryWindow = plan'.recoveryWindow) ∧
    (s.rescanFrom = t.rescanFrom → s.birthday = t.birthday →
      plan.rescanFrom = plan'.rescanFrom ∧ plan.rescanSource = plan'.rescanSource) := by
  obtain ⟨hpath, hheight, hformat, hwindow⟩ := resolve_eq_ok h
  obtain ⟨hpath', hheight', hformat', hwindow'⟩ := resolve_eq_ok h'
  refine ⟨?_, ?_, ?_, ?_⟩
  · intro heq
    rw [hformat, hformat', strategy, heq]
    rfl
  · intro heq
    rw [pathText, heq] at hpath
    exact Except.ok.inj (hpath.symm.trans hpath')
  · intro heq
    rw [hwindow, hwindow', window, heq]
    rfl
  · intro heq heq'
    rw [rescan, heq, heq'] at hheight
    exact Prod.mk.inj (Except.ok.inj (hheight.symm.trans hheight'))

/-- What becomes of settings, exactly. A plan is what they choose; its window and its height are
never zero, and its source tells which of them gave the height. They are refused for their path, or
else for a birthday that is needed where no height can be estimated. Names of no format count as
none. A change of the format, the path, the window, or the number and the birthday that give the
height changes only that part of the plan. -/
theorem resolve_exact (s : Settings) (n : Network) :
    (∀ plan, s.resolve n = .ok plan ↔ s.Makes n plan) ∧
    (∀ e, s.resolve n = .error e ↔ s.Refused n e) ∧
    ((∃ plan, s.resolve n = .ok plan) ↔
      (∃ text, ChoosesPath s.derivationPath text ∧ PathText text.toList) ∧
      (s.rescanFrom = 0 → s.birthday ≠ none → n ∈ [.bitcoin, .testnet, .regtest])) ∧
    (∀ name, name ∉ ["bitcoin-cli", "bitcoin-cli-watchonly", "bitcoin-importwallet"] →
      { s with format := some name }.resolve n = { s with format := none }.resolve n) ∧
    ∀ plan, s.resolve n = .ok plan →
      plan.recoveryWindow ≠ 0 ∧ plan.rescanFrom ≠ 0 ∧
      (plan.rescanSource = .explicit ↔ s.rescanFrom ≠ 0) ∧
      (plan.rescanSource = .birthday ↔ s.rescanFrom = 0 ∧ ∃ t margin, s.birthday = some t ∧
        Height.estimateWithMargin n t = .ok margin ∧ margin ≠ 0) ∧
      (∀ format plan', { s with format := format }.resolve n = .ok plan' →
        plan' = { plan with strategy := plan'.strategy }) ∧
      (∀ path plan', { s with derivationPath := path }.resolve n = .ok plan' →
        plan' = { plan with derivationPath := plan'.derivationPath }) ∧
      (∀ window plan', { s with recoveryWindow := window }.resolve n = .ok plan' →
        plan' = { plan with recoveryWindow := plan'.recoveryWindow }) ∧
      ∀ height birthday plan',
        { s with rescanFrom := height, birthday := birthday }.resolve n = .ok plan' →
        plan' = { plan with
          rescanFrom := plan'.rescanFrom, rescanSource := plan'.rescanSource } := by
  refine ⟨fun _ => resolve_eq_ok_iff, fun _ => resolve_eq_error_iff, exists_resolve_iff, ?_, ?_⟩
  · intro name hname
    apply resolve_of_unknownFormat
    rintro format rfl
    cases format <;> simp [Strategy.selector] at hname
  intro plan h
  have hmakes := resolve_eq_ok_iff.mp h
  refine ⟨hmakes.window.ne_zero, hmakes.height.ne_zero, hmakes.height.explicit_iff,
    hmakes.height.birthday_iff, ?_, ?_, ?_, ?_⟩
  · intro format plan' h'
    obtain ⟨-, hpath, hwindow, hheight⟩ := parts_eq_of_resolve h' h
    exact plan_ext rfl (hpath rfl) (hwindow rfl) (hheight rfl rfl)
  · intro path plan' h'
    obtain ⟨hformat, -, hwindow, hheight⟩ := parts_eq_of_resolve h' h
    exact plan_ext (hformat rfl) rfl (hwindow rfl) (hheight rfl rfl)
  · intro window plan' h'
    obtain ⟨hformat, hpath, -, hheight⟩ := parts_eq_of_resolve h' h
    exact plan_ext (hformat rfl) (hpath rfl) rfl (hheight rfl rfl)
  · intro height birthday plan' h'
    obtain ⟨hformat, hpath, hwindow, -⟩ := parts_eq_of_resolve h' h
    exact plan_ext (hformat rfl) (hpath rfl) (hwindow rfl) ⟨rfl, rfl⟩

/-- Two days after the first block the margin leaves no height, and the assumed one counts. What is
wrong with a path is reported before a network on which no height can be estimated, and a number for
the height makes up for this. -/
theorem resolve_exact_early :
    let t : Instant := ⟨1231179305, 0, by decide, by decide, by decide, by decide⟩
    let s : Settings :=
      { format := some "electrum", derivationPath := some "m/0", birthday := some t }
    let plan : Plan := {
      strategy := .directImport
      derivationPath := ⟨[.zero]⟩
      recoveryWindow := 2500
      rescanFrom := 500000
      rescanSource := .assumed }
    s.resolve .bitcoin = .ok plan ∧
      s.resolve .signet = .error (.noHeight (.unknownNetwork .signet)) ∧
      { s with rescanFrom := 1 }.resolve .signet =
        .ok { plan with rescanFrom := 1, rescanSource := .explicit } ∧
      { s with derivationPath := some "m/" }.resolve .signet =
        .error (.malformedPath (.emptySegment 0)) ∧
      { s with format := none }.resolve .bitcoin = .ok plan ∧ plan.recoveryWindow ≠ 0 ∧
      ∀ format plan', { s with format := format }.resolve .bitcoin = .ok plan' →
        plan'.derivationPath = ⟨[.zero]⟩ := by
  intro t s plan
  have hformat : ChoosesFormat s.format .directImport := .unknown fun format => by
    cases format <;> decide
  have hpath : ChoosesPath s.derivationPath plan.derivationPath.text := .given (by decide)
  have htext : PathText plan.derivationPath.text.toList :=
    DerivationPath.pathText_iff.mpr ⟨_, plan.derivationPath.toList_text⟩
  have hmargin : Height.estimateWithMargin .bitcoin t = .ok 0 := by decide +kernel
  obtain ⟨hok, -, -, hunknown, hparts⟩ := resolve_exact s .bitcoin
  have hplan : s.resolve .bitcoin = .ok plan :=
    (hok plan).mpr ⟨hformat, hpath, .unset, .tooEarly hmargin⟩
  obtain ⟨hwindow, -, -, -, hsame, -⟩ := hparts plan hplan
  obtain ⟨-, herror, -⟩ := resolve_exact s .signet
  have hsignet : s.resolve .signet = .error (.noHeight (.unknownNetwork .signet)) :=
    (herror _).mpr (.noHeight hpath htext rfl rfl (by decide))
  obtain ⟨hgiven, -⟩ := resolve_exact { s with rescanFrom := 1 } .signet
  obtain ⟨-, hrefused, -⟩ := resolve_exact { s with derivationPath := some "m/" } .signet
  refine ⟨hplan, hsignet, (hgiven _).mpr ⟨hformat, hpath, .unset, .given _ (by decide)⟩,
    (hrefused _).mpr (.malformed (.given (by decide)) (by decide)),
    (hunknown "electrum" (by decide)).symm.trans hplan, hwindow, ?_⟩
  intro format plan' h
  rw [hsame format plan' h]

end WalletRecovery.Settings
