import WalletRecovery.ImportScript.Line
import WalletRecovery.ImportScript.Sink
import WalletRecovery.Key.Derivation
import WalletRecovery.Settings.Plan

/-!
# Writing an import script

A job is a plan for a root key on a network.  Its script is a header, one line for every key of the
external branch and then of the internal one, and a final directive to rescan.  Keys are derived one
by one while the script is written; the first failure ends it, and what was written before stays.
-/

namespace WalletRecovery

/-- A plan for a root key on a network. -/
structure Job where
  root : ExtendedKey
  network : Network
  plan : Plan
deriving DecidableEq

inductive ScriptError where
  | derivation (branch : Branch) (index : Nat) (e : DerivationError)
  | representation (branch : Branch) (index : Nat) (e : RepresentationError)
  | sink (e : SinkError)
deriving DecidableEq

def ScriptError.diagnosis : ScriptError → Diagnosis
  | derivation branch index e =>
    let cause := e.diagnosis
    Diagnosis.within s!"could not derive key {branch.index}/{index}: {cause.message}" cause
  | representation branch index e =>
    Diagnosis.within s!"could not represent key {branch.index}/{index}: {e.message}"
      ⟨e.message, []⟩
  | sink e => Diagnosis.within s!"could not write import script: {e.message}" ⟨e.message, []⟩

structure ScriptSummary where
  keysWritten : Nat
  rescanFrom : UInt32
deriving DecidableEq, Repr

/-- A computation that writes to a sink and can fail. -/
abbrev Writing := ExceptT ScriptError (StateM Sink)

namespace Writing

def line (text : String) : Writing Unit := fun sink =>
  let (result, sink) := sink.put (utf8 text ++ [10])
  (result.mapError .sink, sink)

def flush : Writing Unit := fun sink =>
  (sink.flush.mapError .sink, sink)

end Writing

namespace Job

def keyPath (job : Job) (branch : Branch) (index : Nat) : Except ScriptError DerivationPath :=
  match ChildNumber.ofIndex false index with
  | .error e => .error (.derivation branch index (.indexOutOfRange e))
  | .ok child => .ok (job.plan.derivationPath.extend [branch.child, child])

def keyRepresentation (job : Job) (branch : Branch) (index : Nat) :
    Except ScriptError Representation :=
  match job.keyPath branch index with
  | .error e => .error e
  | .ok path =>
    match job.root.derive path with
    | .error e => .error (.derivation branch index e)
    | .ok key => (key.represent? job.network).mapError (.representation branch index)

def keyLine (job : Job) (branch : Branch) (index : Nat) : Except ScriptError String :=
  match job.keyRepresentation branch index with
  | .error e => .error e
  | .ok r =>
    (job.plan.strategy.line r ⟨job.plan.derivationPath, branch, index⟩).mapError
      (.representation branch index)

/-- The first line of a script, the only one that depends on the time. -/
def header (createdAt : Instant) : String :=
  s!"# Wallet dump created by keysweep on {createdAt.text}"

def rescanDirective (job : Job) : String :=
  s!"{clientCommand} rescanblockchain {job.plan.rescanFrom.toNat}"

def window (job : Job) : Nat :=
  job.plan.recoveryWindow.toNat

def entryAt? (job : Job) (position : Nat) : Option (Branch × Nat) :=
  if position < job.window then some (.external, position)
  else if position < 2 * job.window then some (.internal, position - job.window)
  else none

/-- At most `count` keys of the script, in order, behind the first `skip` ones. -/
def entries (job : Job) (skip count : Nat) : List (Branch × Nat) :=
  (List.range (min count (2 * job.window - skip))).filterMap fun i => job.entryAt? (skip + i)

def writeKeys (job : Job) (branch : Branch) : Nat → Nat → Writing Unit
  | 0, _ => pure ()
  | count + 1, index => do
    let line ← liftM (job.keyLine branch index)
    Writing.line line
    job.writeKeys branch count (index + 1)

def writeScript (job : Job) (createdAt : Instant) : Writing ScriptSummary := do
  Writing.line (header createdAt)
  Writing.line job.plan.strategy.usageHint
  job.writeKeys .external job.window 0
  job.writeKeys .internal job.window 0
  Writing.line job.rescanDirective
  Writing.flush
  return ⟨2 * job.window, job.plan.rescanFrom⟩

def runScript (job : Job) (createdAt : Instant) (sink : Sink) :
    Except ScriptError ScriptSummary × Sink :=
  (job.writeScript createdAt).run sink

end Job

end WalletRecovery
