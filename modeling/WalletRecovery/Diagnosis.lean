import WalletRecovery.Numeral

/-!
# Reports of failures

What is reported of a failure: its own message and those of the failures that it came from.
-/

namespace WalletRecovery

/-- A message with the messages of its causes, the nearest one first. -/
structure Diagnosis where
  message : String
  causes : List String := []
deriving DecidableEq, Repr

namespace Diagnosis

def within (message : String) (cause : Diagnosis) : Diagnosis :=
  ⟨message, cause.message :: cause.causes⟩

/-- A number that takes up five places at least, with blanks in front. -/
def place (n : Nat) : String :=
  let digits := Numeral.decimal n
  String.ofList (List.replicate (5 - digits.length) ' ' ++ digits)

/-- The lines that show the causes of a failure.  A single cause is only set in, several are
numbered. -/
def causeLines : List String → List String
  | [] => []
  | [cause] => ["", "Caused by:", s!"    {cause}"]
  | causes => "" :: "Caused by:" :: causes.zipIdx.map fun (cause, i) => s!"{place i}: {cause}"

def lines (d : Diagnosis) : List String :=
  s!"Error: {d.message}" :: causeLines d.causes

end Diagnosis

end WalletRecovery
