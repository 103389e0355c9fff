import WalletRecovery.Numeral

/-!
# Byte strings of known length

`Bytes n` is a list of `n` bytes.  Byte strings are joined and cut with their lengths in the type,
so a record of fixed-width fields is written by `append` and read back by `split`.
-/

namespace WalletRecovery

structure Bytes (n : Nat) where
  toList : List UInt8
  length_eq : toList.length = n
deriving DecidableEq

namespace Bytes

theorem ext {n : Nat} {a b : Bytes n} (h : a.toList = b.toList) : a = b := by
  cases a; cases b; simp_all

def ofList? (n : Nat) (bs : List UInt8) : Option (Bytes n) :=
  if h : bs.length = n then some ⟨bs, h⟩ else none

theorem ofList?_toList {n : Nat} (a : Bytes n) : ofList? n a.toList = some a := by
  simp [ofList?, a.length_eq]

def append {m n : Nat} (a : Bytes m) (b : Bytes n) : Bytes (m + n) :=
  ⟨a.toList ++ b.toList, by simp [a.length_eq, b.length_eq]⟩

instance {m n : Nat} : HAppend (Bytes m) (Bytes n) (Bytes (m + n)) := ⟨append⟩

/-- Cuts a byte string after its first `m` bytes. -/
def split {m n : Nat} (a : Bytes (m + n)) : Bytes m × Bytes n :=
  (⟨a.toList.take m, by simp [a.length_eq]⟩, ⟨a.toList.drop m, by simp [a.length_eq]⟩)

@[simp] theorem toList_append {m n : Nat} (a : Bytes m) (b : Bytes n) :
    (a ++ b).toList = a.toList ++ b.toList := rfl

theorem split_append {m n : Nat} (a : Bytes m) (b : Bytes n) : (a ++ b).split = (a, b) := by
  have h := a.length_eq
  simp only [split, toList_append, Prod.mk.injEq]
  exact ⟨ext (List.take_left' h), ext (List.drop_left' h)⟩

theorem append_split {m n : Nat} (a : Bytes (m + n)) : a.split.1 ++ a.split.2 = a :=
  ext (List.take_append_drop m a.toList)

def single (b : UInt8) : Bytes 1 :=
  ⟨[b], rfl⟩

def byte (a : Bytes 1) : UInt8 :=
  a.toList.headD 0

/-- The `n` lowest bytes of a number, most significant first. -/
def ofNat (n v : Nat) : Bytes n :=
  ⟨(Numeral.fixed 256 n v).map UInt8.ofNat, by simp⟩

/-- The number that a byte string stands for, most significant byte first. -/
def toNat {n : Nat} (a : Bytes n) : Nat :=
  Numeral.value 256 (a.toList.map UInt8.toNat)

def zero (n : Nat) : Bytes n :=
  ⟨List.replicate n 0, by simp⟩

end Bytes

def hexText (bs : List UInt8) : List Char :=
  bs.flatMap fun b => [Numeral.hexChar (b.toNat / 16), Numeral.hexChar (b.toNat % 16)]

def Bytes.hex {n : Nat} (a : Bytes n) : String :=
  String.ofList (hexText a.toList)

def utf8 (s : String) : List UInt8 :=
  s.toUTF8.data.toList

def byteLength : List Char → Nat
  | [] => 0
  | c :: cs => c.utf8Size + byteLength cs

end WalletRecovery
