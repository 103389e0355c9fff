import WalletRecovery.Bytes

/-!
# Child numbers

A step from a key to one of its children: an index below `2^31`, and whether the step is hardened.
-/

namespace WalletRecovery

/-- The least number that is no index. -/
def indexLimit : Nat := 0x80000000

structure ChildNumber where
  index : Nat
  hardened : Bool
  index_lt : index < indexLimit := by decide
deriving DecidableEq, Repr

namespace ChildNumber

def zero : ChildNumber := ⟨0, false, by decide⟩

structure OutOfRange where
  index : Nat
deriving DecidableEq, Repr

def OutOfRange.message (e : OutOfRange) : String :=
  s!"child number {e.index} is invalid (not within [0, 2^31 - 1])"

def ofIndex (hardened : Bool) (index : Nat) : Except OutOfRange ChildNumber :=
  if h : index < indexLimit then .ok ⟨index, hardened, h⟩ else .error ⟨index⟩

def chars (c : ChildNumber) : List Char :=
  Numeral.decimal c.index ++ if c.hardened then ['\''] else []

def text (c : ChildNumber) : String :=
  String.ofList c.chars

/-- The number that stands for a child in encoded keys: the topmost of its 32 bits is set for
hardened children. -/
def code (c : ChildNumber) : Nat :=
  if c.hardened then indexLimit + c.index else c.index

def ofCode (n : Nat) : ChildNumber :=
  ⟨n % indexLimit, indexLimit ≤ n, Nat.mod_lt _ (by decide)⟩

theorem ofCode_code (c : ChildNumber) : ofCode c.code = c := by
  obtain ⟨index, hardened, h⟩ := c
  cases hardened <;> simp [ofCode, code, Nat.mod_eq_of_lt h, h]

def toBytes (c : ChildNumber) : Bytes 4 :=
  Bytes.ofNat 4 c.code

def ofBytes (bs : Bytes 4) : ChildNumber :=
  ofCode bs.toNat

end ChildNumber

end WalletRecovery
