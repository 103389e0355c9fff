import WalletRecovery.Log.Pattern.Basic
import WalletRecovery.Numeral
import WalletRecovery.Text.Blank

/-!
# Escapes and free spacing

What a backslash introduces in a pattern, and what is skipped where a pattern is spaced freely:
blanks, and comments from a number sign to the end of the line.
-/

namespace WalletRecovery.Log.Pattern

def skipSpace (inComment : Bool) : List Char → List Char
  | [] => []
  | c :: rest =>
    if inComment then skipSpace (c != '\n') rest
    else if c = '#' then skipSpace true rest
    else if Text.isBlank c then skipSpace false rest
    else c :: rest

def skip (isSpaced : Bool) (cs : List Char) : List Char :=
  if isSpaced then skipSpace false cs else cs

theorem skipSpace_suffix (inComment : Bool) (cs : List Char) : skipSpace inComment cs <:+ cs := by
  induction cs generalizing inComment with
  | nil => exact List.suffix_refl _
  | cons c rest ih =>
    unfold skipSpace
    split
    · exact (ih _).trans (List.suffix_cons ..)
    · split
      · exact (ih _).trans (List.suffix_cons ..)
      · split
        · exact (ih _).trans (List.suffix_cons ..)
        · exact List.suffix_refl _

theorem length_skip_le (isSpaced : Bool) (cs : List Char) :
    (skip isSpaced cs).length ≤ cs.length := by
  unfold skip
  split
  · exact (skipSpace_suffix false cs).length_le
  · exact Nat.le_refl _

/-- The first character that is neither blank nor the sign that begins a comment.  It can be within
the comment. -/
def firstMark? (inComment : Bool) : List Char → Option Char
  | [] => none
  | c :: rest =>
    if Text.isBlank c then firstMark? inComment rest
    else if ! inComment && c == '#' then firstMark? true rest
    else some c

/-- The character that decides what a hyphen in front of a text means. -/
def ahead? (isSpaced : Bool) (cs : List Char) : Option Char :=
  if isSpaced then firstMark? false cs <|> cs.head? else cs.head?

inductive Escape where
  | literal (l : Literal)
  | shorthand (letter : Char)
  | anchor
  | wordBoundary
deriving DecidableEq, Repr

def controlLetters : List (Char × Char) :=
  [('a', '\x07'), ('f', '\x0c'), ('n', '\n'), ('r', '\r'), ('t', '\t'), ('v', '\x0b')]

def classLetters : List Char :=
  ['d', 'D', 's', 'S', 'w', 'W']

def codePointLetters : List (Char × Nat) :=
  [('x', 2), ('u', 4), ('U', 8)]

def boundaryMarks : List Char :=
  ['b', 'B', '<', '>']

def isMark (c : Char) : Bool :=
  c.toNat < 0x80 && ! c.isAlphanum

def digits? (isSpaced : Bool) : Nat → List Char → Option (List Nat × List Char)
  | 0, cs => some ([], cs)
  | n + 1, cs =>
    match skip isSpaced cs with
    | [] => none
    | c :: rest => do
      let digit ← Numeral.hexValue? c
      let (digits, rest) ← digits? isSpaced n rest
      return (digit :: digits, rest)

def codePoint? (isSpaced : Bool) (count : Nat) (cs : List Char) : Option (Char × List Char) := do
  let (digits, rest) ← digits? isSpaced count cs
  let n := Numeral.value 16 digits
  if n.isValidChar then return (Char.ofNat n, rest) else none

def escape? (isSpaced : Bool) : List Char → Option (Escape × List Char)
  | [] => none
  | c :: rest =>
    match codePointLetters.lookup c, controlLetters.lookup c with
    | some count, _ =>
      (codePoint? isSpaced count rest).map fun (d, rest) => (.literal ⟨d, c == 'x'⟩, rest)
    | _, some control => some (.literal { char := control }, rest)
    | none, none =>
      if c ∈ classLetters then some (.shorthand c, rest)
      else if c = 'A' ∨ c = 'z' then some (.anchor, rest)
      else if c ∈ boundaryMarks then some (.wordBoundary, rest)
      else if isMark c then some (.literal { char := c }, rest)
      else none

end WalletRecovery.Log.Pattern
