import WalletRecovery.Settings.Basic
import WalletRecovery.Time.Timestamp

/-!
# Reading settings

Settings are read field by field from a document, and the first field that does not fit is
reported.  Fields that are missing are left open; fields that nobody knows are refused.
-/

namespace WalletRecovery.Settings

open Document (Value)

inductive Expected where
  | string
  | number
  | timestamp
deriving DecidableEq, Repr

def Expected.describe : Expected → String
  | string => "a string"
  | number => "u32"
  | timestamp => "an RFC 3339 formatted date and time string"

inductive ReadError where
  | unknownField (name : String)
  | wrongType (found : String) (expected : Expected)
  | outOfRange (n : Int)
  | badTime (e : TimeError)
deriving DecidableEq, Repr

/-- The names of the fields as messages list them. -/
def fieldNames : String :=
  "`format`, `derivation_path`, `recovery_window`, `rescan_from`, `birthday`"

def ReadError.message : ReadError → String
  | unknownField name => s!"unknown field `{name}`, expected one of {fieldNames}"
  | wrongType found expected => s!"invalid type: {found}, expected {expected.describe}"
  | outOfRange n => s!"invalid value: integer `{String.ofList (Numeral.signed n)}`, expected u32"
  | badTime e => e.message

def readText (style : Binary64.Style) : Value → Except ReadError (Option String)
  | .null => .ok none
  | .text s => .ok (some s)
  | v => .error (.wrongType (v.describe style) .string)

def readNumber (style : Binary64.Style) : Value → Except ReadError UInt32
  | .integer n =>
    if 0 ≤ n ∧ n < 0x100000000 then .ok (UInt32.ofNat n.toNat) else .error (.outOfRange n)
  | v => .error (.wrongType (v.describe style) .number)

def readTime (style : Binary64.Style) : Value → Except ReadError (Option Instant)
  | .null => .ok none
  | .text s =>
    match Timestamp.parseLenient s.toList with
    | .ok t => .ok (some t)
    | .error e => .error (.badTime e)
  | v => .error (.wrongType (v.describe style) .timestamp)

def readField (style : Binary64.Style) (s : Settings) (name : String) (v : Value) :
    Except ReadError Settings :=
  match name with
  | "format" => (readText style v).map fun x => { s with format := x }
  | "derivation_path" => (readText style v).map fun x => { s with derivationPath := x }
  | "recovery_window" => (readNumber style v).map fun x => { s with recoveryWindow := x }
  | "rescan_from" => (readNumber style v).map fun x => { s with rescanFrom := x }
  | "birthday" => (readTime style v).map fun x => { s with birthday := x }
  | _ => .error (.unknownField name)

def readFields (style : Binary64.Style) : Settings → List (String × Value) →
    Except ReadError Settings
  | s, [] => .ok s
  | s, (name, v) :: rest => readField style s name v >>= fun s => readFields style s rest

/-- The settings that a configuration object holds.  Its fields are read in the order of their
names. -/
def ofObject (fields : List (String × Value)) : Except ReadError Settings :=
  readFields .mixed {} (Document.sortFields fields)

end WalletRecovery.Settings
