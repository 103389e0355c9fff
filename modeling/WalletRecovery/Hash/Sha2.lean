import WalletRecovery.Bytes

/-!
# The SHA-2 hash functions

SHA-256 and SHA-512 share one construction over 32-bit and 64-bit words.  `Variant` holds what
differs between them: the rotation amounts, the initial state and one constant for every round.
-/

namespace WalletRecovery

namespace Sha2

/-- The machine words that a hash function works on. -/
class Word (ω : Type) extends Add ω, AndOp ω, XorOp ω, Complement ω where
  /-- The number of bytes in a word. -/
  width : Nat
  ofNat : Nat → ω
  toNat : ω → Nat
  rotateRight : ω → ω → ω
  shiftRight : ω → ω → ω

instance : Word UInt32 where
  width := 4
  ofNat := UInt32.ofNat
  toNat := UInt32.toNat
  rotateRight x n := (x >>> n) ||| (x <<< (32 - n))
  shiftRight x n := x >>> n

instance : Word UInt64 where
  width := 8
  ofNat := UInt64.ofNat
  toNat := UInt64.toNat
  rotateRight x n := (x >>> n) ||| (x <<< (64 - n))
  shiftRight x n := x >>> n

structure State (ω : Type) where
  a : ω
  b : ω
  c : ω
  d : ω
  e : ω
  f : ω
  g : ω
  h : ω

/-- The amounts by which one mixing function rotates or shifts its argument. -/
structure Mixer (ω : Type) where
  first : ω
  second : ω
  third : ω

/-- What distinguishes one hash function of the family from another. -/
structure Variant (ω : Type) where
  /-- Rotations of the first working word in a round. -/
  upper : Mixer ω
  /-- Rotations of the fifth working word in a round. -/
  lower : Mixer ω
  /-- Two rotations and a shift of the word fifteen places back in the schedule. -/
  far : Mixer ω
  /-- Two rotations and a shift of the word two places back in the schedule. -/
  near : Mixer ω
  initial : State ω
  constants : List ω

variable {ω : Type}

@[specialize] def Mixer.rotate [Word ω] (m : Mixer ω) (x : ω) : ω :=
  Word.rotateRight x m.first ^^^ Word.rotateRight x m.second ^^^ Word.rotateRight x m.third

@[specialize] def Mixer.shift [Word ω] (m : Mixer ω) (x : ω) : ω :=
  Word.rotateRight x m.first ^^^ Word.rotateRight x m.second ^^^ Word.shiftRight x m.third

@[specialize] def round [Word ω] (v : Variant ω) (s : State ω) (k w : ω) : State ω :=
  let choice := (s.e &&& s.f) ^^^ (~~~s.e &&& s.g)
  let majority := (s.a &&& s.b) ^^^ (s.a &&& s.c) ^^^ (s.b &&& s.c)
  let t := s.h + v.lower.rotate s.e + choice + k + w
  { a := t + (v.upper.rotate s.a + majority), b := s.a, c := s.b, d := s.c,
    e := s.d + t, f := s.e, g := s.f, h := s.g }

/-- Extends the schedule by one word, computed from the sixteen before it. -/
@[specialize] def extend [Word ω] (v : Variant ω) (ws : Array ω) : Array ω :=
  let back := fun i => ws.getD (ws.size - i) (Word.ofNat 0)
  ws.push (back 16 + v.far.shift (back 15) + back 7 + v.near.shift (back 2))

@[specialize] def schedule [Word ω] (v : Variant ω) (block : List ω) : Array ω :=
  (List.range (v.constants.length - 16)).foldl (fun ws _ => extend v ws) block.toArray

@[specialize] def State.add [Word ω] (s t : State ω) : State ω :=
  { a := s.a + t.a, b := s.b + t.b, c := s.c + t.c, d := s.d + t.d,
    e := s.e + t.e, f := s.f + t.f, g := s.g + t.g, h := s.h + t.h }

@[specialize] def compress [Word ω] (v : Variant ω) (s : State ω) (block : List ω) : State ω :=
  s.add <| (v.constants.zip (schedule v block).toList).foldl (fun t kw => round v t kw.1 kw.2) s

@[specialize] def wordsOf [Word ω] : Nat → List UInt8 → List ω
  | 0, _ => []
  | count + 1, bs =>
    Word.ofNat ((bs.take (Word.width ω)).foldl (fun n b => n * 256 + b.toNat) 0) ::
      wordsOf count (bs.drop (Word.width ω))

@[specialize] def absorb [Word ω] (v : Variant ω) : Nat → State ω → List UInt8 → State ω
  | 0, s, _ => s
  | count + 1, s, bs =>
    absorb v count (compress v s (wordsOf 16 bs)) (bs.drop (16 * Word.width ω))

/-- The number of zero bytes that fill the last block of a message, after its end mark and before
its length. -/
def fill (width length : Nat) : Nat :=
  (16 * width - (length + 1 + 2 * width) % (16 * width)) % (16 * width)

def pad (width : Nat) (message : List UInt8) : List UInt8 :=
  message ++ 0x80 :: List.replicate (fill width message.length) 0 ++
    (Bytes.ofNat (2 * width) (8 * message.length)).toList

def State.words (s : State ω) : List ω :=
  [s.a, s.b, s.c, s.d, s.e, s.f, s.g, s.h]

@[specialize] def digest [Word ω] (v : Variant ω) (message : List UInt8) : State ω :=
  let padded := pad (Word.width ω) message
  absorb v (padded.length / (16 * Word.width ω)) v.initial padded

def variant256 : Variant UInt32 where
  upper := ⟨2, 13, 22⟩
  lower := ⟨6, 11, 25⟩
  far := ⟨7, 18, 3⟩
  near := ⟨17, 19, 10⟩
  initial := ⟨
   0x6a09e667, 0xbb67ae85, 0x3c6ef372, 0xa54ff53a,
   0x510e527f, 0x9b05688c, 0x1f83d9ab, 0x5be0cd19⟩
  constants := [
   0x428a2f98, 0x71374491, 0xb5c0fbcf, 0xe9b5dba5, 0x3956c25b, 0x59f111f1,
   0x923f82a4, 0xab1c5ed5, 0xd807aa98, 0x12835b01, 0x243185be, 0x550c7dc3,
   0x72be5d74, 0x80deb1fe, 0x9bdc06a7, 0xc19bf174, 0xe49b69c1, 0xefbe4786,
   0x0fc19dc6, 0x240ca1cc, 0x2de92c6f, 0x4a7484aa, 0x5cb0a9dc, 0x76f988da,
   0x983e5152, 0xa831c66d, 0xb00327c8, 0xbf597fc7, 0xc6e00bf3, 0xd5a79147,
   0x06ca6351, 0x14292967, 0x27b70a85, 0x2e1b2138, 0x4d2c6dfc, 0x53380d13,
   0x650a7354, 0x766a0abb, 0x81c2c92e, 0x92722c85, 0xa2bfe8a1, 0xa81a664b,
   0xc24b8b70, 0xc76c51a3, 0xd192e819, 0xd6990624, 0xf40e3585, 0x106aa070,
   0x19a4c116, 0x1e376c08, 0x2748774c, 0x34b0bcb5, 0x391c0cb3, 0x4ed8aa4a,
   0x5b9cca4f, 0x682e6ff3, 0x748f82ee, 0x78a5636f, 0x84c87814, 0x8cc70208,
   0x90befffa, 0xa4506ceb, 0xbef9a3f7, 0xc67178f2]

def variant512 : Variant UInt64 where
  upper := ⟨28, 34, 39⟩
  lower := ⟨14, 18, 41⟩
  far := ⟨1, 8, 7⟩
  near := ⟨19, 61, 6⟩
  initial := ⟨
   0x6a09e667f3bcc908, 0xbb67ae8584caa73b, 0x3c6ef372fe94f82b, 0xa54ff53a5f1d36f1,
   0x510e527fade682d1, 0x9b05688c2b3e6c1f, 0x1f83d9abfb41bd6b, 0x5be0cd19137e2179⟩
  constants := [
   0x428a2f98d728ae22, 0x7137449123ef65cd, 0xb5c0fbcfec4d3b2f, 0xe9b5dba58189dbbc,
   0x3956c25bf348b538, 0x59f111f1b605d019, 0x923f82a4af194f9b, 0xab1c5ed5da6d8118,
   0xd807aa98a3030242, 0x12835b0145706fbe, 0x243185be4ee4b28c, 0x550c7dc3d5ffb4e2,
   0x72be5d74f27b896f, 0x80deb1fe3b1696b1, 0x9bdc06a725c71235, 0xc19bf174cf692694,
   0xe49b69c19ef14ad2, 0xefbe4786384f25e3, 0x0fc19dc68b8cd5b5, 0x240ca1cc77ac9c65,
   0x2de92c6f592b0275, 0x4a7484aa6ea6e483, 0x5cb0a9dcbd41fbd4, 0x76f988da831153b5,
   0x983e5152ee66dfab, 0xa831c66d2db43210, 0xb00327c898fb213f, 0xbf597fc7beef0ee4,
   0xc6e00bf33da88fc2, 0xd5a79147930aa725, 0x06ca6351e003826f, 0x142929670a0e6e70,
   0x27b70a8546d22ffc, 0x2e1b21385c26c926, 0x4d2c6dfc5ac42aed, 0x53380d139d95b3df,
   0x650a73548baf63de, 0x766a0abb3c77b2a8, 0x81c2c92e47edaee6, 0x92722c851482353b,
   0xa2bfe8a14cf10364, 0xa81a664bbc423001, 0xc24b8b70d0f89791, 0xc76c51a30654be30,
   0xd192e819d6ef5218, 0xd69906245565a910, 0xf40e35855771202a, 0x106aa07032bbd1b8,
   0x19a4c116b8d2d0c8, 0x1e376c085141ab53, 0x2748774cdf8eeb99, 0x34b0bcb5e19b48a8,
   0x391c0cb3c5c95a63, 0x4ed8aa4ae3418acb, 0x5b9cca4f7763e373, 0x682e6ff3d6b2b8a3,
   0x748f82ee5defb2fc, 0x78a5636f43172f60, 0x84c87814a1f0ab72, 0x8cc702081a6439ec,
   0x90befffa23631e28, 0xa4506cebde82bde9, 0xbef9a3f7b2c67915, 0xc67178f2e372532b,
   0xca273eceea26619c, 0xd186b8c721c0c207, 0xeada7dd6cde0eb1e, 0xf57d4f7fee6ed178,
   0x06f067aa72176fba, 0x0a637dc5a2c898a6, 0x113f9804bef90dae, 0x1b710b35131c471b,
   0x28db77f523047d84, 0x32caab7b40c72493, 0x3c9ebe0a15c9bebc, 0x431d67c49c100d4c,
   0x4cc5d4becb3e42b6, 0x597f299cfc657e2a, 0x5fcb6fab3ad6faec, 0x6c44198c4a475817]

end Sha2

open Sha2

def sha256 (message : List UInt8) : Bytes 32 :=
  let words := (digest variant256 message).words
  ⟨words.flatMap fun w => (Bytes.ofNat 4 w.toNat).toList, by
    simp [words, State.words, Bytes.length_eq]⟩

def sha512 (message : List UInt8) : Bytes 64 :=
  let words := (digest variant512 message).words
  ⟨words.flatMap fun w => (Bytes.ofNat 8 w.toNat).toList, by
    simp [words, State.words, Bytes.length_eq]⟩

end WalletRecovery
