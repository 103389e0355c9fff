import WalletRecovery.Decimal.Shortest
import WalletRecovery.Text.Quoted

/-!
# Values of documents

The values that settings are read from, whichever notation they were written in.
-/

namespace WalletRecovery.Document

inductive Value where
  | null
  | boolean (b : Bool)
  | integer (n : Int)
  | float (x : Binary64)
  | text (s : String)
  /-- A date, a time, or both, written without quotes. -/
  | moment
  | list (items : List Value)
  | table (fields : List (String × Value))
deriving Inhabited

def Value.describe (style : Binary64.Style) : Value → String
  | null => "null"
  | boolean b => if b then "boolean `true`" else "boolean `false`"
  | integer n => s!"integer `{String.ofList (Numeral.signed n)}`"
  | float x => s!"floating point `{x.text style}`"
  | text s => s!"string {Text.quote s}"
  | moment => "map"
  | list _ => "sequence"
  | table _ => "map"

/-- Puts a field where its name belongs among sorted fields; it replaces one of the same name. -/
def insertField (field : String × Value) : List (String × Value) → List (String × Value)
  | [] => [field]
  | other :: rest =>
    if field.1 = other.1 then field :: rest
    else if field.1 < other.1 then field :: other :: rest
    else other :: insertField field rest

/-- Fields in the order of their names; of several fields of one name the last one stays. -/
def sortFields (fields : List (String × Value)) : List (String × Value) :=
  fields.foldl (fun sorted field => insertField field sorted) []

end WalletRecovery.Document
