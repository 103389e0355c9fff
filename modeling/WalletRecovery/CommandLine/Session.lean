import WalletRecovery.CommandLine.Console
import WalletRecovery.CommandLine.Folder
import WalletRecovery.Log.Event

/-!
# Sessions

A session is a computation that talks to the world around it: it reads files, asks questions at the
console, reports events and writes to the standard output.  The same session can be carried out on
a real machine or on a world that is given as a value.
-/

namespace WalletRecovery.CommandLine

inductive Session (α : Type) where
  /-- It ends with a result. -/
  | done (result : α)
  /-- It reports an event. -/
  | log (event : Log.Event) (next : Session α)
  /-- It writes bytes to the standard output. -/
  | write (bytes : List UInt8) (next : Session α)
  /-- It reads the file with a given name. -/
  | readFile (name : String) (next : Except FileFault (List UInt8) → Session α)
  /-- It asks a question at the console. -/
  | ask (question : Question) (next : Except ConsoleError String → Session α)

/-- The part of the world that a session reads from. -/
structure World where
  folder : Folder := {}
  console : Console := none
deriving DecidableEq, Repr

structure Transcript where
  output : List UInt8 := []
  events : List Log.Event := []
deriving DecidableEq

def Transcript.append (s t : Transcript) : Transcript :=
  ⟨s.output ++ t.output, s.events ++ t.events⟩

instance : Append Transcript := ⟨Transcript.append⟩

theorem Transcript.append_assoc (s t u : Transcript) : s ++ t ++ u = s ++ (t ++ u) := by
  show mk _ _ = mk _ _
  rw [mk.injEq]
  exact ⟨List.append_assoc .., List.append_assoc ..⟩

namespace Session

def bind {α β : Type} : Session α → (α → Session β) → Session β
  | done result, f => f result
  | log event next, f => log event (next.bind f)
  | write bytes next, f => write bytes (next.bind f)
  | readFile name next, f => readFile name fun content => (next content).bind f
  | ask question next, f => ask question fun answer => (next answer).bind f

instance : Monad Session where
  pure := done
  bind := bind

/-- Carries out a session in a world.  Its result comes with what is left of the console and with
everything that was reported and written. -/
def run {α : Type} : Session α → World → α × Console × Transcript
  | done result, world => (result, world.console, {})
  | log event next, world =>
    let (result, console, transcript) := next.run world
    (result, console, { events := [event] } ++ transcript)
  | write bytes next, world =>
    let (result, console, transcript) := next.run world
    (result, console, { output := bytes } ++ transcript)
  | readFile name next, world => (next (world.folder.read name)).run world
  | ask question next, world =>
    let (answer, console) := world.console.answer question
    (next answer).run { world with console }

/-- A session of two parts runs the second part on what the first one leaves of the console. -/
theorem run_bind {α β : Type} (s : Session α) (f : α → Session β) (world : World) :
    (s >>= f).run world =
      let (result, console, before) := s.run world
      let (result, console, after) := (f result).run { world with console }
      (result, console, before ++ after) := by
  induction s generalizing world with
  | done result => rfl
  | log event next ih =>
    have := ih world
    simp only [Bind.bind] at this
    simp [Bind.bind, bind, run, this, Transcript.append_assoc]
  | write bytes next ih =>
    have := ih world
    simp only [Bind.bind] at this
    simp [Bind.bind, bind, run, this, Transcript.append_assoc]
  | readFile name next ih =>
    have := ih (world.folder.read name) world
    simpa [Bind.bind, bind, run] using this
  | ask question next ih =>
    have := ih (world.console.answer question).1
      { world with console := (world.console.answer question).2 }
    simpa [Bind.bind, bind, run] using this

end Session

end WalletRecovery.CommandLine
