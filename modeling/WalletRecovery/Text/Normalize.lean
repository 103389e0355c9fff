import WalletRecovery.Numeral
import WalletRecovery.Text.Blank
import WalletRecovery.Text.CombiningClass
import WalletRecovery.Text.DecompositionTable

/-!
# Compatibility normal form

Normalization form KD: every character is replaced by its compatibility decomposition, and the
marks that follow a base character are sorted by combining class.
-/

namespace WalletRecovery.Text

/-- The decompositions of a run of characters: each is that of the first, moved up by the distance
between the two. -/
structure Decomposition where
  first : Nat
  count : Nat
  target : List Nat
deriving DecidableEq, Repr

def ofHexadecimal (cs : List Char) : Nat :=
  Numeral.value 16 (cs.map fun c => (Numeral.hexValue? c).getD 0)

def Decomposition.ofText (cs : List Char) : Decomposition :=
  let (source, target) := (cs.takeWhile (· ≠ '='), (cs.dropWhile (· ≠ '=')).drop 1)
  let (first, count) := (source.takeWhile (· ≠ '+'), (source.dropWhile (· ≠ '+')).drop 1)
  { first := ofHexadecimal first
    count := if count = [] then 1 else ofHexadecimal count
    target := (target.splitOn '.').map ofHexadecimal }

def decompositions : List Decomposition :=
  (words decompositionText.toList).map Decomposition.ofText

/-- The conjoining letters of a Hangul syllable, given by its position among the syllables. -/
def hangulLetters (position : Nat) : List Nat :=
  let lead := 0x1100 + position / 588
  let vowel := 0x1161 + position % 588 / 28
  if position % 28 = 0 then [lead, vowel] else [lead, vowel, 0x11a7 + position % 28]

/-- The full compatibility decomposition of a character.  Blanks of the separator classes, line and
paragraph separators apart, become the space. -/
def decompose (c : Char) : List Char :=
  let n := c.toNat
  if n < 0xa0 then [c]
  else if isBlank c then
    if n = 0x1680 ∨ n = 0x2028 ∨ n = 0x2029 then [c] else [' ']
  else if 0xac00 ≤ n ∧ n < 0xd7a4 then (hangulLetters (n - 0xac00)).map Char.ofNat
  else
    match decompositions.find? fun d => d.first ≤ n && n < d.first + d.count with
    | some d => d.target.map fun t => Char.ofNat (t + (n - d.first))
    | none => [c]

/-- Puts a character in front of a text in canonical order: behind the marks at its beginning whose
class is lower. -/
def place (c : Char) : List Char → List Char
  | [] => [c]
  | d :: rest =>
    if combiningClass d ≠ 0 ∧ combiningClass d < combiningClass c then d :: place c rest
    else c :: d :: rest

def sortMarks : List Char → List Char
  | [] => []
  | c :: rest => place c (sortMarks rest)

def nfkd (cs : List Char) : List Char :=
  sortMarks (cs.flatMap decompose)

end WalletRecovery.Text
