import WalletRecovery.ImportScript.Strategy
import WalletRecovery.Path.Parser
import WalletRecovery.Rescan.Height
import WalletRecovery.Settings.Basic
import WalletRecovery.Diagnosis

/-!
# Plans

A plan is what a run does once everything that the settings leave open has been filled in.  Every
part is filled in on its own: the format, the path, the window, and the height to rescan from, which
is the one given, else estimated from the birthday, else a fixed one.
-/

namespace WalletRecovery

inductive RescanSource where
  /-- It was given. -/
  | explicit
  /-- It was estimated from the birthday. -/
  | birthday
  /-- Nothing usable was given. -/
  | assumed
deriving DecidableEq, Repr

/-- The complete parameters of a run. -/
structure Plan where
  strategy : Strategy
  derivationPath : DerivationPath
  recoveryWindow : UInt32
  rescanFrom : UInt32
  rescanSource : RescanSource
deriving DecidableEq, Repr

inductive PlanError where
  | malformedPath (e : PathError)
  | noHeight (e : HeightError)
deriving DecidableEq, Repr

def PlanError.diagnosis : PlanError → Diagnosis
  | malformedPath e => Diagnosis.within s!"error parsing path: {e.message}" ⟨e.message, []⟩
  | noHeight e => ⟨e.message, []⟩

namespace Settings

def assumedPath : String := "m/84'/0'/0'"

def assumedWindow : UInt32 := 2500

def assumedHeight : UInt32 := 500000

def strategy (s : Settings) : Strategy :=
  (s.format.map Strategy.ofSelector).getD .directImport

/-- The path text that settings select; an empty one counts as none. -/
def pathText (s : Settings) : String :=
  match s.derivationPath with
  | none => assumedPath
  | some text => if text = "" then assumedPath else text

def window (s : Settings) : UInt32 :=
  if s.recoveryWindow = 0 then assumedWindow else s.recoveryWindow

def rescan (s : Settings) (network : Network) : Except HeightError (UInt32 × RescanSource) :=
  if s.rescanFrom ≠ 0 then .ok (s.rescanFrom, .explicit)
  else
    match s.birthday with
    | none => .ok (assumedHeight, .assumed)
    | some t => (Height.estimateWithMargin network t).map fun height =>
        if height = 0 then (assumedHeight, .assumed) else (height, .birthday)

/-- The plan that settings make on a network.  A malformed path is reported before a birthday that
gives no height. -/
def resolve (s : Settings) (network : Network) : Except PlanError Plan :=
  match DerivationPath.parse s.pathText with
  | .error e => .error (.malformedPath e)
  | .ok path =>
    match s.rescan network with
    | .error e => .error (.noHeight e)
    | .ok (height, source) =>
      .ok { strategy := s.strategy, derivationPath := path, recoveryWindow := s.window,
            rescanFrom := height, rescanSource := source }

end Settings

end WalletRecovery
