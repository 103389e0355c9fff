import WalletRecovery.Diagnosis
import WalletRecovery.Numeral

/-!
# The console

What a run asks for at the console when no root key was given.  A terminal asks a question again as
long as it is answered with nothing although something is needed.
-/

namespace WalletRecovery.CommandLine

inductive Question where
  /-- In which form the root key will be entered. -/
  | keySource
  | rootKey
  | mnemonic
  | passphrase
  | birthday
deriving DecidableEq, Repr

namespace Question

def prompt : Question → String
  | keySource => "How do you want to enter the root key?"
  | rootKey => "Extended root key"
  | mnemonic => "Mnemonic words, separated by spaces"
  | passphrase => "Mnemonic passphrase (leave empty if none)"
  | birthday => "Wallet birthday, RFC 3339 or YYYY-MM-DD (leave empty if unknown)"

/-- Whether an empty answer is not taken. -/
def needsText : Question → Bool
  | rootKey => true
  | mnemonic => true
  | _ => false

def failure : Question → String
  | keySource => "could not read key source"
  | rootKey => "could not read root key"
  | mnemonic => "could not read mnemonic"
  | passphrase => "could not read passphrase"
  | birthday => "could not read birthday"

end Question

inductive KeySource where
  | encoded
  | mnemonic
deriving DecidableEq, Repr

namespace KeySource

def menu : List (KeySource × String) :=
  [(encoded, "extended key (xprv/tprv/xpub/tpub)"), (mnemonic, "BIP39 mnemonic")]

/-- The entry that is reached from the top by a number of steps down; below the last entry comes the
first one again. -/
def afterSteps (steps : Nat) : KeySource :=
  if steps % 2 = 0 then encoded else mnemonic

def ofAnswer (answer : String) : KeySource :=
  afterSteps (Numeral.ofDecimal (answer.toList.filter Numeral.isDigit))

end KeySource

def Question.display : Question → String
  | .keySource =>
    KeySource.menu.zipIdx.foldl (fun text entry => s!"{text}\n  {entry.2}: {entry.1.2}")
      Question.keySource.prompt ++ "\n> "
  | q => s!"{q.prompt}: "

inductive ConsoleError where
  | notATerminal
  | closed
deriving DecidableEq, Repr

def ConsoleError.message : ConsoleError → String
  | notATerminal => "not a terminal"
  | closed => "unexpected end of file"

def ConsoleError.diagnosis (e : ConsoleError) : Diagnosis :=
  Diagnosis.within s!"IO error: {e.message}" ⟨e.message, []⟩

/-- The answers that will be given at a terminal, in their order; none if there is no terminal. -/
abbrev Console := Option (List String)

def Console.answer (console : Console) (q : Question) : Except ConsoleError String × Console :=
  match console with
  | none => (.error .notATerminal, none)
  | some answers =>
    match if q.needsText then answers.dropWhile (·.isEmpty) else answers with
    | [] => (.error .closed, some [])
    | answer :: rest => (.ok answer, some rest)

end WalletRecovery.CommandLine
