import WalletRecovery.CommandLine.Parser
import WalletRecovery.Proofs.Key.Derivation
import WalletRecovery.Proofs.Settings.StoredBirthday

/-! # The flag of a birthday

A command line without a birthday is read to the same values if the flag of a birthday is put
between its arguments, and the birthday. Both readings go side by side: no argument but the flag
takes notice of a birthday. -/

namespace WalletRecovery.CommandLine

variable {ε : Type} {t : Instant} {p : Parameter} {text : String}

namespace Given

variable {g g' : Given}

def withBirthday (g : Given) (t : Instant) : Given :=
  { g with birthday := some t }

/-- Whether a step that leaves values without a birthday found none, and would have left the same
values with one. -/
def IgnoresBirthday (t : Instant) (step : Given → Except ε Given) : Prop :=
  ∀ g g', step g = .ok g' → g'.birthday = none →
    g.birthday = none ∧ step (g.withBirthday t) = .ok (g'.withBirthday t)

theorem has_withBirthday (h : p ≠ .birthday) : (g.withBirthday t).has p = g.has p := by
  cases p with
  | birthday => exact absurd rfl h
  | _ => rfl

theorem birthday_of_assign (h : g.assign .birthday text = .ok g') : g'.birthday ≠ none := by
  obtain ⟨t, -, h⟩ := ok_of_bind_eq_ok h
  obtain rfl := Except.ok.inj h
  exact Option.some_ne_none t

theorem ignoresBirthday_assign (p : Parameter) (text : String) :
    IgnoresBirthday t (·.assign p text) := by
  intro g g' h hnone
  cases p with
  | birthday => exact absurd hnone (birthday_of_assign h)
  | rootKey | format | derivationPath =>
    obtain rfl := Except.ok.inj h
    exact ⟨hnone, rfl⟩
  | recoveryWindow | rescanFrom =>
    obtain ⟨n, hn, h⟩ := ok_of_bind_eq_ok h
    obtain rfl := Except.ok.inj h
    refine ⟨hnone, ?_⟩
    dsimp only
    rw [assign, hn]
    rfl
  | network =>
    dsimp only at h ⊢
    rw [assign] at h ⊢
    cases hn : Network.ofName? text with
    | none =>
      rw [hn] at h
      cases h
    | some n =>
      rw [hn] at h
      obtain rfl := Except.ok.inj h
      exact ⟨hnone, rfl⟩
  | configFile =>
    dsimp only at h ⊢
    rw [assign] at h ⊢
    split at h
    · cases h
    · next hne =>
      obtain rfl := Except.ok.inj h
      refine ⟨hnone, ?_⟩
      rw [if_neg hne]
      rfl

theorem ignoresBirthday_add (p : Parameter) (text : String) :
    IgnoresBirthday t (·.add p text) := by
  intro g g' h hnone
  dsimp only at h ⊢
  rw [add] at h
  split at h
  · cases h
  · next hhas =>
    obtain ⟨hg, hassign⟩ := ignoresBirthday_assign (t := t) p text g g' h hnone
    have hp : p ≠ .birthday := by
      rintro rfl
      exact birthday_of_assign h hnone
    refine ⟨hg, ?_⟩
    rw [add, has_withBirthday hp, if_neg hhas]
    exact hassign

theorem ignoresBirthday_fill (environment : String → Option String) (p : Parameter) :
    IgnoresBirthday t (·.fill environment p) := by
  intro g g' h hnone
  dsimp only at h ⊢
  rw [fill] at h
  by_cases hp : p = .birthday
  · subst hp
    have hkept : (g.withBirthday t).fill environment .birthday = .ok (g.withBirthday t) := rfl
    split at h
    · next hhas =>
      obtain rfl := Except.ok.inj h
      rw [has, hnone] at hhas
      cases hhas
    split at h
    · obtain rfl := Except.ok.inj h
      exact ⟨hnone, hkept⟩
    · exact absurd hnone (birthday_of_assign h)
  · rw [fill, has_withBirthday hp]
    split at h
    · next hhas =>
      obtain rfl := Except.ok.inj h
      rw [if_pos hhas]
      exact ⟨hnone, rfl⟩
    · next hhas =>
      rw [if_neg hhas]
      split at h
      · obtain rfl := Except.ok.inj h
        exact ⟨hnone, rfl⟩
      · next text _ => exact ignoresBirthday_assign p text g g' h hnone

theorem ignoresBirthday_foldlM {step : Given → Parameter → Except ε Given}
    (h : ∀ p, IgnoresBirthday t (step · p)) (ps : List Parameter) :
    IgnoresBirthday t (ps.foldlM step) := by
  intro g g' hg hnone
  induction ps generalizing g with
  | nil =>
    obtain rfl := Except.ok.inj hg
    exact ⟨hnone, rfl⟩
  | cons p ps ih =>
    dsimp only at hg ih ⊢
    rw [List.foldlM_cons] at hg ⊢
    obtain ⟨g₁, hstep, hrest⟩ := ok_of_bind_eq_ok hg
    -- the end tells that there was no birthday after this step, and so none before it
    obtain ⟨hnone₁, hrest'⟩ := ih g₁ hrest
    obtain ⟨hnone₀, hstep'⟩ := h p g g₁ hstep hnone₁
    refine ⟨hnone₀, ?_⟩
    dsimp only at hstep'
    rw [hstep']
    exact hrest'

theorem fillAll_withBirthday {environment : String → Option String}
    (h : g.fillAll environment = .ok g') (hnone : g'.birthday = none) :
    g.birthday = none ∧ (g.withBirthday t).fillAll environment = .ok (g'.withBirthday t) :=
  ignoresBirthday_foldlM (ignoresBirthday_fill environment) Parameter.all g g' h hnone

end Given

namespace Token

theorem eq_of_escape {argument : String} (h : ofArgument argument = .escape) :
    argument = "--" := by
  rw [ofArgument] at h
  split at h
  · next heq => exact String.toList_inj.mp heq
  · simp only [long] at h
    split at h
    · cases h
    · split at h <;> cases h
  · simp only [short] at h
    split at h
    · cases h
    · split at h <;> cases h
  · cases h

theorem ofArgument_plain (h : ∀ cs, text.toList ≠ '-' :: cs) : ofArgument text = .plain text := by
  rw [ofArgument]
  split
  · next heq => exact absurd heq (h _)
  · next heq => exact absurd heq (h _)
  · next heq => exact absurd heq (h _)
  · rfl

theorem ofArgument_attached (text : String) :
    ofArgument ("--birthday=" ++ text) = .option .birthday (some text) := by
  have hlong : ofArgument ("--birthday=" ++ text) =
      .option .birthday (some (String.ofList text.toList)) := by
    rw [ofArgument, String.toList_append]
    rfl
  rwa [String.ofList_toList] at hlong

end Token

namespace Reading

variable {r r' : Reading} {g g₁ : Given} {argument : String} {arguments before behind : List String}

/-! ## Steps -/

/-- How an argument leads from one reading to the next: as an option whose value follows, as an
option with its value, or as the value of the option before it. -/
inductive Step (r : Reading) (argument : String) : Reading → Prop where
  | option {p : Parameter} {given : Given} : Token.ofArgument argument = .option p none →
      r.settle = .ok given → Step r argument { given, pending := some (p, none) }
  | attached {p : Parameter} {text : String} {given given' : Given} :
      Token.ofArgument argument = .option p (some text) → r.settle = .ok given →
      given.add p text = .ok given' → Step r argument { given := given' }
  | value {p : Parameter} {text : String} : Token.ofArgument argument = .plain text →
      r.pending = some (p, none) → Step r argument { r with pending := some (p, some text) }

theorem Step.read_cons (h : Step r argument r') (rest : List String) :
    r.read (argument :: rest) = r'.read rest := by
  rw [read.eq_def]
  dsimp only
  cases h with
  | option htoken hsettle =>
    rw [htoken, hsettle]
    rfl
  | @attached p text given given' htoken hsettle hadd =>
    rw [htoken, hsettle]
    change (given.add p text).mapError Halt.refused >>= _ = _
    rw [hadd]
    rfl
  | value htoken hpending => rw [htoken, hpending]

/-- Arguments that are accepted go on step by step, but for two dashes at their end. -/
theorem step_of_read {rest : List String} (h : r.read (argument :: rest) = .ok g) :
    (argument = "--" ∧ rest = [] ∧ r.settle = .ok g) ∨ ∃ r', Step r argument r' := by
  rw [read.eq_def] at h
  dsimp only at h
  cases htoken : Token.ofArgument argument with
  | unknown shown =>
    rw [htoken] at h
    cases h
  | escape =>
    rw [htoken] at h
    cases rest with
    | nil => exact Or.inl ⟨Token.eq_of_escape htoken, rfl, h⟩
    | cons stray rest => cases h
  | switch s value =>
    rw [htoken] at h
    cases value with
    | some text => cases h
    | none =>
      obtain ⟨_, -, h⟩ := ok_of_bind_eq_ok h
      cases h
  | option p value =>
    rw [htoken] at h
    cases value with
    | none =>
      obtain ⟨given, hsettle, -⟩ := ok_of_bind_eq_ok h
      exact Or.inr ⟨_, .option htoken hsettle⟩
    | some text =>
      obtain ⟨given, hsettle, h⟩ := ok_of_bind_eq_ok h
      obtain ⟨given', hadd, -⟩ := ok_of_bind_eq_ok h
      exact Or.inr ⟨_, .attached htoken hsettle (mapError_eq_ok_iff.mp hadd)⟩
  | plain text =>
    rw [htoken] at h
    rcases hpending : r.pending with _ | ⟨p, _ | value⟩
    · rw [hpending] at h
      cases h
    · exact Or.inr ⟨_, .value htoken hpending⟩
    · rw [hpending] at h
      cases h

theorem read_escape (r : Reading) : r.read ["--"] = r.settle := by
  have htoken : Token.ofArgument "--" = .escape := by decide
  rw [read.eq_def]
  dsimp only
  rw [htoken]

/-! ## Side by side -/

def withBirthday (r : Reading) (t : Instant) : Reading :=
  { r with given := r.given.withBirthday t }

theorem settle_withBirthday (h : r.settle = .ok g) (hnone : g.birthday = none) :
    r.given.birthday = none ∧ (r.withBirthday t).settle = .ok (g.withBirthday t) := by
  obtain ⟨given, pending⟩ := r
  cases pending with
  | none =>
    obtain rfl := Except.ok.inj h
    exact ⟨hnone, rfl⟩
  | some pending =>
    obtain ⟨p, value⟩ := pending
    cases value with
    | none => cases h
    | some text =>
      have hadd := mapError_eq_ok_iff.mp h
      obtain ⟨hgiven, hadd'⟩ := Given.ignoresBirthday_add (t := t) p text given g hadd hnone
      exact ⟨hgiven, mapError_eq_ok_iff.mpr hadd'⟩

theorem Step.withBirthday (h : Step r argument r') (hnone : r'.given.birthday = none) :
    r.given.birthday = none ∧ Step (r.withBirthday t) argument (r'.withBirthday t) := by
  cases h with
  | option htoken hsettle =>
    obtain ⟨hgiven, hsettle'⟩ := settle_withBirthday (t := t) hsettle hnone
    exact ⟨hgiven, .option htoken hsettle'⟩
  | attached htoken hsettle hadd =>
    obtain ⟨hgiven, hadd'⟩ := Given.ignoresBirthday_add (t := t) _ _ _ _ hadd hnone
    obtain ⟨hgiven', hsettle'⟩ := settle_withBirthday (t := t) hsettle hgiven
    exact ⟨hgiven', .attached htoken hsettle' hadd'⟩
  | value htoken hpending => exact ⟨hnone, .value htoken hpending⟩

/-- Both readings go side by side. A birthday that is pending turns up in the values as soon as it
is settled, so there is none either. -/
theorem read_withBirthday (h : r.read arguments = .ok g) (hnone : g.birthday = none) :
    r.given.birthday = none ∧ (r.withBirthday t).read arguments = .ok (g.withBirthday t) := by
  induction arguments generalizing r with
  | nil => exact settle_withBirthday h hnone
  | cons argument rest ih =>
    rcases step_of_read h with ⟨rfl, rfl, hsettle⟩ | ⟨r', hstep⟩
    · rw [read_escape]
      exact settle_withBirthday hsettle hnone
    · rw [hstep.read_cons] at h
      obtain ⟨hgiven, hread⟩ := ih h
      obtain ⟨hgiven', hstep'⟩ := hstep.withBirthday (t := t) hgiven
      rw [hstep'.read_cons]
      exact ⟨hgiven', hread⟩

/-! ## The flag -/

theorem read_of_settle (h : r.settle = .ok g) (arguments : List String) :
    r.read arguments = ({ given := g } : Reading).read arguments := by
  cases arguments with
  | nil => exact h
  | cons argument rest =>
    rw [read.eq_def, read.eq_def]
    dsimp only
    have hsettled : ({ given := g } : Reading).settle = .ok g := rfl
    rw [h, hsettled]
    cases Token.ofArgument argument with
    | plain text =>
      obtain ⟨given, pending⟩ := r
      rcases pending with _ | ⟨p, _ | value⟩
      · rfl
      · cases h
      · rfl
    | unknown | escape => rfl
    | switch _ value | option _ value => cases value <;> rfl

/-- A command line without a birthday, and the same with the flag of one between its arguments. The
flag does not separate an option from its value, and does not stand behind two dashes. -/
inductive Flagged (text : String) : List String → List String → Prop where
  | apart {before behind : List String} {g : Given} : ({} : Reading).read before = .ok g →
      "--" ∉ before → Flagged text (before ++ behind) (before ++ "--birthday" :: text :: behind)
  | attached {before behind : List String} {g : Given} : ({} : Reading).read before = .ok g →
      "--" ∉ before → Flagged text (before ++ behind) (before ++ ("--birthday=" ++ text) :: behind)

theorem add_birthday (h : Birthday.parse text = .ok t) (hnone : g.birthday = none) :
    g.add .birthday text = .ok (g.withBirthday t) := by
  have hhas : g.has .birthday = false := by rw [Given.has, hnone]; rfl
  rw [Given.add, hhas, if_neg (by decide), Given.assign, h]
  rfl

theorem read_apart (h : Birthday.parse text = .ok t) (hplain : ∀ cs, text.toList ≠ '-' :: cs)
    (hsettle : r.settle = .ok g) (hnone : g.birthday = none) (behind : List String) :
    r.read ("--birthday" :: text :: behind) =
      ({ given := g.withBirthday t } : Reading).read behind := by
  have hflag : Step r "--birthday" { given := g, pending := some (.birthday, none) } :=
    .option (by decide) hsettle
  have hvalue : Step { given := g, pending := some (.birthday, none) } text
      { given := g, pending := some (.birthday, some text) } :=
    .value (Token.ofArgument_plain hplain) rfl
  have hsettled : ({ given := g, pending := some (.birthday, some text) } : Reading).settle =
      .ok (g.withBirthday t) :=
    mapError_eq_ok_iff.mpr (add_birthday h hnone)
  rw [hflag.read_cons, hvalue.read_cons, read_of_settle hsettled]

theorem read_attached (h : Birthday.parse text = .ok t) (hsettle : r.settle = .ok g)
    (hnone : g.birthday = none) (behind : List String) :
    r.read (("--birthday=" ++ text) :: behind) =
      ({ given := g.withBirthday t } : Reading).read behind := by
  have hflag : Step r ("--birthday=" ++ text) { given := g.withBirthday t } :=
    .attached (Token.ofArgument_attached text) hsettle (add_birthday h hnone)
  exact hflag.read_cons behind

/-- The arguments behind others can be exchanged for some that are read alike once everything before
them is settled. -/
theorem read_append_congr {behind' : List String} {g' : Given}
    (htail : ∀ {r : Reading} {g₀}, r.settle = .ok g₀ → r.read behind = .ok g →
      r.read behind' = .ok g')
    (hescape : "--" ∉ before) (hbefore : r.read before = .ok g₁)
    (h : r.read (before ++ behind) = .ok g) : r.read (before ++ behind') = .ok g' := by
  induction before generalizing r with
  | nil => exact htail hbefore h
  | cons argument before ih =>
    rw [List.mem_cons, not_or] at hescape
    rw [List.cons_append] at h ⊢
    rcases step_of_read h with ⟨heq, -, -⟩ | ⟨r', hstep⟩
    · exact absurd heq.symm hescape.1
    · rw [hstep.read_cons] at hbefore h ⊢
      exact ih hescape.2 hbefore h

theorem read_flagged {arguments' : List String} (hflag : Flagged text arguments arguments')
    (h : Birthday.parse text = .ok t) (hplain : ∀ cs, text.toList ≠ '-' :: cs)
    (hread : ({} : Reading).read arguments = .ok g) (hnone : g.birthday = none) :
    ({} : Reading).read arguments' = .ok (g.withBirthday t) := by
  have hbehind {r : Reading} {g₀ : Given} {behind : List String} (hsettle : r.settle = .ok g₀)
      (hr : r.read behind = .ok g) :
      g₀.birthday = none ∧
        ({ given := g₀.withBirthday t } : Reading).read behind = .ok (g.withBirthday t) := by
    rw [read_of_settle hsettle] at hr
    exact read_withBirthday hr hnone
  cases hflag with
  | apart hbefore hescape =>
    refine read_append_congr ?_ hescape hbefore hread
    intro r g₀ hsettle hr
    obtain ⟨hnone₀, hr'⟩ := hbehind hsettle hr
    rw [read_apart h hplain hsettle hnone₀, hr']
  | attached hbefore hescape =>
    refine read_append_congr ?_ hescape hbefore hread
    intro r g₀ hsettle hr
    obtain ⟨hnone₀, hr'⟩ := hbehind hsettle hr
    rw [read_attached h hsettle hnone₀, hr']

end Reading

def Arguments.withBirthday (a : Arguments) (t : Instant) : Arguments :=
  { a with settings := a.settings.withBirthday t }

/-- A command line is read to the same arguments with the flag of a birthday, and the birthday,
whatever else is taken from the environment. -/
theorem Arguments.parse_flagged {a : Arguments} {arguments arguments' : List String}
    {environment : String → Option String} (hflag : Reading.Flagged text arguments arguments')
    (h : Birthday.parse text = .ok t) (hplain : ∀ cs, text.toList ≠ '-' :: cs)
    (hparse : parse arguments environment = .ok a) (hnone : a.settings.birthday = none) :
    parse arguments' environment = .ok (a.withBirthday t) := by
  obtain ⟨given, hread, hparse⟩ := ok_of_bind_eq_ok hparse
  obtain ⟨filled, hfill, hparse⟩ := ok_of_bind_eq_ok hparse
  obtain rfl := Except.ok.inj hparse
  obtain ⟨hgiven, hfill'⟩ := Given.fillAll_withBirthday (t := t) (mapError_eq_ok_iff.mp hfill) hnone
  rw [parse, Reading.read_flagged hflag h hplain hread hgiven]
  change ((given.withBirthday t).fillAll environment).mapError Halt.refused >>= _ = _
  rw [hfill']
  rfl

end WalletRecovery.CommandLine
