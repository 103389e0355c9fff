import WalletRecovery.Path.Basic
import WalletRecovery.Text.Quoted

/-!
# Reading derivation paths

A path text is read segment by segment, from the left, up to the first segment that is not a plain
decimal number below `2^31` with at most one apostrophe.  Leading zeros and other marks of hardened
steps are refused, so that every path has exactly one text.
-/

namespace WalletRecovery

inductive PathError where
  /-- The part before the first slash is not the letter `m`. -/
  | missingMaster (text : String)
  /-- There is nothing between two slashes, or behind the last. -/
  | emptySegment (position : Nat)
  /-- A segment is not a number with an optional apostrophe, or too large for 64 bits. -/
  | invalidSegment (segment : String)
  /-- The number of a segment starts with a zero that is not its only digit. -/
  | leadingZero (segment : String)
  /-- The number of a segment is not below `2^31`. -/
  | indexOutOfRange (index : Nat)
deriving DecidableEq, Repr

def PathError.message : PathError → String
  | missingMaster text => s!"derivation path must start with 'm', got {Text.quote text}"
  | emptySegment position => s!"empty segment at position {position} in derivation path"
  | invalidSegment segment => s!"invalid derivation path segment {Text.quote segment}"
  | leadingZero segment => s!"derivation path segment {Text.quote segment} has a leading zero"
  | indexOutOfRange index => s!"derivation index {index} is out of range, must be below 2^31"

namespace DerivationPath

def cutMark (segment : List Char) : List Char × Bool :=
  match segment.getLast? with
  | some '\'' => (segment.dropLast, true)
  | _ => (segment, false)

def parseSegment (position : Nat) (segment : List Char) : Except PathError ChildNumber :=
  let (digits, hardened) := cutMark segment
  let index := Numeral.ofDecimal digits
  if segment = [] then .error (.emptySegment position)
  else if digits = [] ∨ ¬ digits.all Numeral.isDigit then
    .error (.invalidSegment (String.ofList segment))
  else if 1 < digits.length ∧ digits.head? = some '0' then
    .error (.leadingZero (String.ofList segment))
  else if UInt64.size ≤ index then .error (.invalidSegment (String.ofList segment))
  else if h : index < indexLimit then .ok ⟨index, hardened, h⟩
  else .error (.indexOutOfRange index)

/-- Reads segments in order up to the first bad one; `position` counts the segments before them. -/
def parseSegments : Nat → List (List Char) → Except PathError (List ChildNumber)
  | _, [] => .ok []
  | position, segment :: rest => do
    let step ← parseSegment position segment
    let steps ← parseSegments (position + 1) rest
    return step :: steps

def parse (text : String) : Except PathError DerivationPath :=
  match text.toList.splitOn '/' with
  | ['m'] :: segments => (parseSegments 0 segments).map (⟨·⟩)
  | _ => .error (.missingMaster text)

end DerivationPath

end WalletRecovery
