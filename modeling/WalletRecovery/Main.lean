import Std.Time.DateTime.Timestamp
import WalletRecovery.CommandLine.Run

/-!
# The program

Carries out the session of a run on the machine: its files, its terminal, its clock and its output.
-/

namespace WalletRecovery.CommandLine

def clock : IO Instant := do
  let now ← Std.Time.Timestamp.now
  match Instant.ofParts? now.val.second.val now.val.nano.val.toNat with
  | some t => return t
  | none => throw (.userError "the clock shows no time of the calendar")

def fileBytes (name : String) : IO (Except FileFault (List UInt8)) := do
  match ← (IO.FS.readBinFile name).toBaseIO with
  | .ok bytes => return .ok bytes.toList
  | .error (.noFileOrDirectory _ _ _) => return .error .notFound
  | .error (.inappropriateType _ code _) =>
    return .error (if code = 21 then .isDirectory else .notADirectory)
  | .error (.invalidArgument _ _ _) => return .error .nameTooLong
  | .error e => return .error (.other (toString e))

def withoutEnd (line : String) : String :=
  String.ofList (line.toList.reverse.dropWhile fun c => c == '\n' || c == '\r').reverse

/-- Puts a question until it is answered with something where that is needed. -/
partial def putQuestion (q : Question) : IO (Except ConsoleError String) := do
  IO.eprint q.display
  let line ← (← IO.getStdin).getLine
  if line.isEmpty then return .error .closed
  let answer := withoutEnd line
  if q.needsText && answer.isEmpty then putQuestion q else return .ok answer

def askTerminal (q : Question) : IO (Except ConsoleError String) := do
  if ← (← IO.getStdin).isTty then putQuestion q else return .error .notATerminal

def Session.perform {α : Type} (filter : Log.Filter) : Session α → IO α
  | .done result => pure result
  | .log event next => do
    if filter.admits event then IO.eprintln (event.stampedLine (← clock))
    next.perform filter
  | .write bytes next => do
    let output ← IO.getStdout
    output.write ⟨bytes.toArray⟩
    output.flush
    next.perform filter
  | .readFile name next => do (next (← fileBytes name)).perform filter
  | .ask question next => do (next (← askTerminal question)).perform filter

def environmentVariables : IO (List (String × String)) := do
  let names := Log.Filter.environmentVariable :: Parameter.all.map Parameter.environmentVariable
  names.filterMapM fun name => return (← IO.getEnv name).map (name, ·)

end WalletRecovery.CommandLine

open WalletRecovery.CommandLine

def main (arguments : List String) : IO UInt32 := do
  let run : Invocation := { arguments, environment := ← environmentVariables, now := ← clock }
  let ending ← run.session.perform run.filter
  ending.report.forM IO.eprintln
  return ending.exitCode
