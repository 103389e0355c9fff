import WalletRecovery.CommandLine.Arguments

/-!
# Reading a command line

Every argument is classified on its own; then the arguments are gone through from left to right.
The value of an option stands in the same argument or in the next one.  An option whose value has
not been taken in yet is pending: it is settled only when the next option, a switch or the end is
reached, so an argument that nobody knows is reported before a value that does not fit.
-/

namespace WalletRecovery.CommandLine

/-- Something that is asked for instead of a run. -/
inductive Switch where
  | help
  | version
deriving DecidableEq, Repr

namespace Switch

def all : List Switch :=
  [help, version]

def name : Switch → String
  | help => "help"
  | version => "version"

def letter : Switch → Char
  | help => 'h'
  | version => 'V'

def usage (s : Switch) : String :=
  s!"--{s.name}"

def ofName? (name : String) : Option Switch :=
  all.find? fun s => s.name = name

def ofLetter? (c : Char) : Option Switch :=
  all.find? fun s => s.letter = c

end Switch

inductive Token where
  /-- Two dashes, behind which no options are expected. -/
  | escape
  /-- An option, perhaps with its value. -/
  | option (p : Parameter) (value : Option String)
  /-- A switch, perhaps with a value, which it must not have. -/
  | switch (s : Switch) (value : Option String)
  /-- An option that nobody knows, as messages show it. -/
  | unknown (shown : String)
  /-- Any other text. -/
  | plain (text : String)
deriving DecidableEq, Repr

namespace Token

def behindEquals? (cs : List Char) : Option String :=
  match cs.dropWhile (· ≠ '=') with
  | [] => none
  | _ :: value => some (String.ofList value)

/-- What stands behind the letter of an option is its value; one equals sign is left out. -/
def attached? : List Char → Option String
  | [] => none
  | '=' :: value => some (String.ofList value)
  | value => some (String.ofList value)

def long (cs : List Char) : Token :=
  let name := String.ofList (cs.takeWhile (· ≠ '='))
  match Parameter.ofName? name with
  | some p => .option p (behindEquals? cs)
  | none =>
    match Switch.ofName? name with
    | some s => .switch s (behindEquals? cs)
    | none => .unknown s!"--{name}"

/-- The option or switch behind one dash; a switch takes no notice of what follows it. -/
def short (c : Char) (cs : List Char) : Token :=
  match Parameter.ofLetter? c with
  | some p => .option p (attached? cs)
  | none =>
    match Switch.ofLetter? c with
    | some s => .switch s none
    | none => .unknown (String.ofList ['-', c])

def ofArgument (argument : String) : Token :=
  match argument.toList with
  | ['-', '-'] => .escape
  | '-' :: '-' :: cs => long cs
  | '-' :: c :: cs => short c cs
  | _ => .plain argument

end Token

inductive Halt where
  /-- It is refused. -/
  | refused (e : ArgumentError)
  /-- It asks for something else. -/
  | asked (s : Switch)
deriving DecidableEq, Repr

structure Reading where
  given : Given := {}
  /-- The option that was named last, with its value as far as it is known, until it is settled. -/
  pending : Option (Parameter × Option String) := none
deriving DecidableEq, Repr

namespace Reading

def settle (r : Reading) : Except Halt Given :=
  match r.pending with
  | none => .ok r.given
  | some (p, none) => .error (.refused (.missingValue p))
  | some (p, some text) => (r.given.add p text).mapError .refused

def read (r : Reading) : List String → Except Halt Given
  | [] => r.settle
  | argument :: rest =>
    match Token.ofArgument argument with
    | .unknown shown => .error (.refused (.unexpected shown))
    | .escape =>
      match rest with
      | [] => r.settle
      | stray :: _ => .error (.refused (.unexpected stray))
    | .switch s (some text) => .error (.refused (.superfluousValue s.usage text))
    | .switch s none => do
      let _ ← r.settle
      .error (.asked s)
    | .option p none => do
      let given ← r.settle
      read { given, pending := some (p, none) } rest
    | .option p (some text) => do
      let given ← r.settle
      let given ← (given.add p text).mapError .refused
      read { given } rest
    | .plain text =>
      match r.pending with
      | some (p, none) => read { r with pending := some (p, some text) } rest
      | _ => .error (.refused (.unexpected text))

end Reading

def Arguments.parse (arguments : List String) (environment : String → Option String) :
    Except Halt Arguments := do
  let given ← Reading.read {} arguments
  let given ← (given.fillAll environment).mapError .refused
  return given.arguments

end WalletRecovery.CommandLine
