import WalletRecovery.Path.ChildNumber

/-!
# Derivation paths

A path lists the steps from a key to one of its descendants.  Its text is the letter `m`, followed
by a slash and a child number for every step.
-/

namespace WalletRecovery

structure DerivationPath where
  steps : List ChildNumber
deriving DecidableEq, Repr

namespace DerivationPath

/-- The path without steps, which leads from a key to itself. -/
def master : DerivationPath :=
  ⟨[]⟩

def length (p : DerivationPath) : Nat :=
  p.steps.length

def isMaster (p : DerivationPath) : Bool :=
  p.steps.isEmpty

def extend (p : DerivationPath) (steps : List ChildNumber) : DerivationPath :=
  ⟨p.steps ++ steps⟩

def child (p : DerivationPath) (c : ChildNumber) : DerivationPath :=
  p.extend [c]

def chars (p : DerivationPath) : List Char :=
  'm' :: p.steps.flatMap fun c => '/' :: c.chars

def text (p : DerivationPath) : String :=
  String.ofList p.chars

@[simp] theorem steps_extend (p : DerivationPath) (cs : List ChildNumber) :
    (p.extend cs).steps = p.steps ++ cs := rfl

@[simp] theorem length_extend (p : DerivationPath) (cs : List ChildNumber) :
    (p.extend cs).length = p.length + cs.length := by
  simp [length]

theorem chars_extend (p : DerivationPath) (cs : List ChildNumber) :
    (p.extend cs).chars = p.chars ++ cs.flatMap fun c => '/' :: c.chars := by
  simp [chars]

end DerivationPath

end WalletRecovery
