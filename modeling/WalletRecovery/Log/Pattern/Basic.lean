/-!
# Regular expressions

The structure of a regular expression as it is written.  What it matches does not matter here: no
event is chosen by a value.  Its `depth` counts what stands within each other, and is limited.
-/

namespace WalletRecovery.Log

structure Literal where
  char : Char
  /-- Whether it is written as a byte, that is, with two hexadecimal digits behind `\x`. -/
  isByte : Bool := false
deriving DecidableEq, Repr

inductive CharSet where
  /-- Nothing at all. -/
  | empty
  | literal (l : Literal)
  | range (first last : Literal)
  /-- A class that is named between colons. -/
  | named (name : String) (isNegated : Bool)
  /-- A class that a letter behind a backslash stands for; capitals stand for complements. -/
  | shorthand (letter : Char)
  | nested (isNegated : Bool) (inner : CharSet)
  /-- Two or more items in a row. -/
  | union (items : List CharSet)
  /-- An intersection or a difference. -/
  | operation (mark : Char) (left right : CharSet)

inductive Pattern where
  | empty
  /-- Letters of flags in round brackets, which are set for what follows. -/
  | flags (letters : List Char)
  | literal (l : Literal)
  | dot
  /-- The beginning or the end of a line or of the text. -/
  | anchor
  | wordBoundary
  | shorthand (letter : Char)
  | bracket (isNegated : Bool) (set : CharSet)
  | repetition (repeated : Pattern)
  /-- A group, with the letters of the flags that are set within it. -/
  | group (letters : List Char) (inner : Pattern)
  /-- Two or more branches. -/
  | alternation (branches : List Pattern)
  /-- Two or more items in a row. -/
  | sequence (items : List Pattern)

namespace CharSet

def ofItems : List CharSet → CharSet
  | [] => .empty
  | [item] => item
  | items => .union items

mutual

def depth : CharSet → Nat
  | .nested _ inner => inner.depth + 1
  | .union items => depthOfAll items + 1
  | .operation _ left right => max left.depth right.depth + 1
  | _ => 0

def depthOfAll : List CharSet → Nat
  | [] => 0
  | item :: rest => max item.depth (depthOfAll rest)

end

end CharSet

namespace Pattern

def ofItems : List Pattern → Pattern
  | [] => .empty
  | [item] => item
  | items => .sequence items

/-- The pattern of branches; there is always one. -/
def ofBranches : List Pattern → Pattern
  | [branch] => branch
  | branches => .alternation branches

mutual

def depth : Pattern → Nat
  | .bracket _ set => set.depth + 1
  | .repetition repeated => repeated.depth + 1
  | .group _ inner => inner.depth + 1
  | .alternation branches => depthOfAll branches + 1
  | .sequence items => depthOfAll items + 1
  | _ => 0

def depthOfAll : List Pattern → Nat
  | [] => 0
  | item :: rest => max item.depth (depthOfAll rest)

end

def maxDepth : Nat :=
  250

end Pattern

end WalletRecovery.Log
