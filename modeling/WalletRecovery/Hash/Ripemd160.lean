import WalletRecovery.Hash.Sha2

/-!
# RIPEMD-160

Two lines of five rounds run side by side over each block and are added up crosswise at its end.
Together with SHA-256 it makes the twenty-byte hash that addresses carry.
-/

namespace WalletRecovery

namespace Ripemd160

structure State where
  a : UInt32
  b : UInt32
  c : UInt32
  d : UInt32
  e : UInt32

def rotateLeft (x n : UInt32) : UInt32 :=
  (x <<< n) ||| (x >>> (32 - n))

def mixing (number : Nat) (x y z : UInt32) : UInt32 :=
  match number with
  | 0 => x ^^^ y ^^^ z
  | 1 => (x &&& y) ||| (~~~x &&& z)
  | 2 => (x ||| ~~~y) ^^^ z
  | 3 => (x &&& z) ||| (y &&& ~~~z)
  | _ => x ^^^ (y ||| ~~~z)

/-- Sixteen steps of one line: which mixing function they use, the constant they add, the order in
which they read the block, and their rotations. -/
structure Round where
  number : Nat
  constant : UInt32
  order : List Nat
  rotations : List UInt32

def step (number : Nat) (constant : UInt32) (s : State) (word rotation : UInt32) : State :=
  let t := rotateLeft (s.a + mixing number s.b s.c s.d + word + constant) rotation + s.e
  { a := s.e, b := t, c := s.b, d := rotateLeft s.c 10, e := s.d }

def Round.run (block : List UInt32) (s : State) (r : Round) : State :=
  (r.order.zip r.rotations).foldl
    (fun s iw => step r.number r.constant s (block.getD iw.1 0) iw.2) s

def left : List Round := [
  ⟨0, 0x00000000, [0, 1, 2, 3, 4, 5, 6, 7, 8, 9, 10, 11, 12, 13, 14, 15],
    [11, 14, 15, 12, 5, 8, 7, 9, 11, 13, 14, 15, 6, 7, 9, 8]⟩,
  ⟨1, 0x5a827999, [7, 4, 13, 1, 10, 6, 15, 3, 12, 0, 9, 5, 2, 14, 11, 8],
    [7, 6, 8, 13, 11, 9, 7, 15, 7, 12, 15, 9, 11, 7, 13, 12]⟩,
  ⟨2, 0x6ed9eba1, [3, 10, 14, 4, 9, 15, 8, 1, 2, 7, 0, 6, 13, 11, 5, 12],
    [11, 13, 6, 7, 14, 9, 13, 15, 14, 8, 13, 6, 5, 12, 7, 5]⟩,
  ⟨3, 0x8f1bbcdc, [1, 9, 11, 10, 0, 8, 12, 4, 13, 3, 7, 15, 14, 5, 6, 2],
    [11, 12, 14, 15, 14, 15, 9, 8, 9, 14, 5, 6, 8, 6, 5, 12]⟩,
  ⟨4, 0xa953fd4e, [4, 0, 5, 9, 7, 12, 2, 10, 14, 1, 3, 8, 11, 6, 15, 13],
    [9, 15, 5, 11, 6, 8, 13, 12, 5, 12, 13, 14, 11, 8, 5, 6]⟩]

def right : List Round := [
  ⟨4, 0x50a28be6, [5, 14, 7, 0, 9, 2, 11, 4, 13, 6, 15, 8, 1, 10, 3, 12],
    [8, 9, 9, 11, 13, 15, 15, 5, 7, 7, 8, 11, 14, 14, 12, 6]⟩,
  ⟨3, 0x5c4dd124, [6, 11, 3, 7, 0, 13, 5, 10, 14, 15, 8, 12, 4, 9, 1, 2],
    [9, 13, 15, 7, 12, 8, 9, 11, 7, 7, 12, 7, 6, 15, 13, 11]⟩,
  ⟨2, 0x6d703ef3, [15, 5, 1, 3, 7, 14, 6, 9, 11, 8, 12, 2, 10, 0, 4, 13],
    [9, 7, 15, 11, 8, 6, 6, 14, 12, 13, 5, 14, 13, 13, 7, 5]⟩,
  ⟨1, 0x7a6d76e9, [8, 6, 4, 1, 3, 11, 15, 0, 5, 12, 2, 13, 9, 7, 10, 14],
    [15, 5, 8, 11, 14, 14, 6, 14, 6, 9, 12, 9, 12, 5, 15, 8]⟩,
  ⟨0, 0x00000000, [12, 15, 10, 4, 1, 5, 8, 7, 6, 2, 13, 14, 0, 3, 9, 11],
    [8, 5, 12, 9, 12, 5, 14, 6, 8, 13, 6, 5, 15, 13, 11, 11]⟩]

def initial : State :=
  ⟨0x67452301, 0xefcdab89, 0x98badcfe, 0x10325476, 0xc3d2e1f0⟩

def compress (s : State) (block : List UInt32) : State :=
  let l := left.foldl (Round.run block) s
  let r := right.foldl (Round.run block) s
  { a := s.b + l.c + r.d, b := s.c + l.d + r.e, c := s.d + l.e + r.a,
    d := s.e + l.a + r.b, e := s.a + l.b + r.c }

/-- The first `count` words of a byte list, least significant byte first. -/
def wordsOf : Nat → List UInt8 → List UInt32
  | 0, _ => []
  | count + 1, bs =>
    (bs.take 4).foldr (fun b w => (w <<< 8) ||| b.toUInt32) 0 :: wordsOf count (bs.drop 4)

def absorb : Nat → State → List UInt8 → State
  | 0, s, _ => s
  | count + 1, s, bs => absorb count (compress s (wordsOf 16 bs)) (bs.drop 64)

def pad (message : List UInt8) : List UInt8 :=
  message ++ 0x80 :: List.replicate (Sha2.fill 4 message.length) 0 ++
    (Bytes.ofNat 8 (8 * message.length)).toList.reverse

def State.words (s : State) : List UInt32 :=
  [s.a, s.b, s.c, s.d, s.e]

end Ripemd160

open Ripemd160

def ripemd160 (message : List UInt8) : Bytes 20 :=
  let padded := pad message
  let words := (absorb (padded.length / 64) initial padded).words
  ⟨words.flatMap fun w => (Bytes.ofNat 4 w.toNat).toList.reverse, by
    simp [words, State.words, Bytes.length_eq]⟩

/-- The twenty-byte hash of keys and scripts: RIPEMD-160 of SHA-256. -/
def hash160 (message : List UInt8) : Bytes 20 :=
  ripemd160 (sha256 message).toList

end WalletRecovery
