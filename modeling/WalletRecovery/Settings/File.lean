import WalletRecovery.Document.Toml.Reader
import WalletRecovery.Document.Toml.Writer
import WalletRecovery.Settings.Reader

/-!
# Settings files

Settings are kept in a TOML document: one line for every setting, and none for what is left open.
-/

namespace WalletRecovery.Settings

inductive FileError where
  /-- The system cannot read it, for a given reason. -/
  | unreadable (reason : String)
  /-- Its bytes are no text. -/
  | notUtf8
  /-- Its text is no TOML. -/
  | notToml
  /-- Its document holds no settings. -/
  | unsuitable (e : ReadError)
deriving DecidableEq, Repr

def notUtf8Reason : String := "stream did not contain valid UTF-8"

/-- The settings that a TOML text holds.  Its fields are read in the order of their appearance. -/
def ofToml (text : String) : Except FileError Settings :=
  match Toml.parse text with
  | none => .error .notToml
  | some fields => (readFields .positional {} fields).mapError .unsuitable

def ofFile (bs : List UInt8) : Except FileError Settings :=
  match String.fromUTF8? ⟨bs.toArray⟩ with
  | none => .error .notUtf8
  | some text => ofToml text

def textLine (key : List Char) : Option String → List Char
  | none => []
  | some s => Toml.line key (Toml.quote s)

def numberLine (key : List Char) (n : UInt32) : List Char :=
  Toml.line key (Numeral.decimal n.toNat)

def toToml (s : Settings) : String :=
  String.ofList <|
    textLine "format".toList s.format ++
    textLine "derivation_path".toList s.derivationPath ++
    numberLine "recovery_window".toList s.recoveryWindow ++
    numberLine "rescan_from".toList s.rescanFrom ++
    textLine "birthday".toList (s.birthday.map Instant.rfc3339)

end WalletRecovery.Settings
