import WalletRecovery.Document.Value
import WalletRecovery.Time.Instant

/-!
# Settings

What the user asks for.  Everything can be left open: no format, no path, a window or a height of
zero, no birthday.  Settings from several sources are laid over each other.
-/

namespace WalletRecovery

/-- The settings of a run, as given by one source. -/
structure Settings where
  /-- The name of the format. -/
  format : Option String := none
  /-- The path below which the branches lie. -/
  derivationPath : Option String := none
  /-- The number of keys on every branch. -/
  recoveryWindow : UInt32 := 0
  /-- The height to rescan from. -/
  rescanFrom : UInt32 := 0
  /-- The creation time of the wallet. -/
  birthday : Option Instant := none
deriving DecidableEq, Repr

namespace Settings

/-- Lays settings over others: what the upper ones leave open is taken from the lower ones. -/
def overlay (lower upper : Settings) : Settings where
  format := upper.format.or lower.format
  derivationPath := upper.derivationPath.or lower.derivationPath
  recoveryWindow := if upper.recoveryWindow = 0 then lower.recoveryWindow else upper.recoveryWindow
  rescanFrom := if upper.rescanFrom = 0 then lower.rescanFrom else upper.rescanFrom
  birthday := upper.birthday.or lower.birthday

open Document (Value)

def optionalText (s : Option String) : Value :=
  match s with
  | some s => .text s
  | none => .null

def toFields (s : Settings) : List (String × Value) := [
  ("format", optionalText s.format),
  ("derivation_path", optionalText s.derivationPath),
  ("recovery_window", .integer s.recoveryWindow.toNat),
  ("rescan_from", .integer s.rescanFrom.toNat),
  ("birthday", optionalText (s.birthday.map Instant.rfc3339))]

end Settings

end WalletRecovery
