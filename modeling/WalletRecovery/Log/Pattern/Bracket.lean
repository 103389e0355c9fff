import WalletRecovery.Log.Pattern.Escape

/-!
# Classes in square brackets

A class lists characters, ranges and other classes; it can also be made from others by intersection
and difference.  A hyphen makes a range only between two characters.
-/

namespace WalletRecovery.Log.Pattern

def classNames : List String :=
  ["alnum", "alpha", "ascii", "blank", "cntrl", "digit", "graph", "lower", "print", "punct",
    "space", "upper", "word", "xdigit"]

def namedClass? : List Char → Option (CharSet × List Char)
  | ':' :: rest =>
    let isNegated := rest.head? == some '^'
    let rest := if isNegated then rest.tail else rest
    let name := rest.takeWhile (· ≠ ':')
    match rest.drop name.length with
    | ':' :: ']' :: rest =>
      if String.ofList name ∈ classNames then some (.named (String.ofList name) isNegated, rest)
      else none
    | _ => none
  | _ => none

def classItem? (isSpaced : Bool) : List Char → Option (Escape × List Char)
  | [] => none
  | '\\' :: rest => escape? isSpaced rest
  | c :: rest => some (.literal { char := c }, rest)

def Escape.set? : Escape → Option CharSet
  | .literal l => some (.literal l)
  | .shorthand letter => some (.shorthand letter)
  | .anchor => none
  | .wordBoundary => none

def Escape.range? : Escape → Escape → Option CharSet
  | .literal first, .literal last =>
    if first.char ≤ last.char then some (.range first last) else none
  | _, _ => none

def itemOrRange? (isSpaced : Bool) (cs : List Char) : Option (CharSet × List Char) := do
  let (first, rest) ← classItem? isSpaced cs
  match skip isSpaced rest with
  | '-' :: more =>
    if ahead? isSpaced more = some ']' ∨ ahead? isSpaced more = some '-' then
      return (← first.set?, '-' :: more)
    else
      let (last, rest) ← classItem? isSpaced (skip isSpaced more)
      return (← first.range? last, rest)
  | rest => return (← first.set?, rest)

structure OpenClass where
  isNegated : Bool
  /-- What stands in front of the last operator, and its mark. -/
  left : Option (CharSet × Char) := none
  /-- The items behind the last operator, the last one first. -/
  items : List CharSet := []

namespace OpenClass

def add (k : OpenClass) (item : CharSet) : OpenClass :=
  { k with items := item :: k.items }

def set (k : OpenClass) : CharSet :=
  let right := CharSet.ofItems k.items.reverse
  match k.left with
  | none => right
  | some (left, mark) => .operation mark left right

def operate (k : OpenClass) (mark : Char) : OpenClass :=
  { k with left := some (k.set, mark), items := [] }

/-- Reads the hyphens at the beginning of a class, which stand for themselves. -/
def hyphens (isSpaced : Bool) (k : OpenClass) : List Char → OpenClass × List Char
  | '-' :: rest => hyphens isSpaced (k.add (.literal { char := '-' })) (skip isSpaced rest)
  | cs => (k, cs)
termination_by cs => cs.length
decreasing_by
  have := length_skip_le isSpaced rest
  simp only [List.length_cons]
  omega

/-- Reads the beginning of a class from behind its bracket.  A bracket that would close it at once
stands for itself. -/
def start (isSpaced : Bool) (cs : List Char) : OpenClass × List Char :=
  let cs := skip isSpaced cs
  let isNegated := cs.head? == some '^'
  let cs := if isNegated then skip isSpaced cs.tail else cs
  match hyphens isSpaced { isNegated } cs with
  | (k, ']' :: rest) =>
    if k.items.isEmpty then (k.add (.literal { char := ']' }), rest) else (k, ']' :: rest)
  | begun => begun

end OpenClass

/-- The marks of the operators, which are written twice. -/
def operatorMarks : List Char :=
  ['&', '-', '~']

/-- Reads a class to its end, where `around` are the classes that it is in, the innermost first;
`fuel` bounds the number of items. -/
def classEnd? (isSpaced : Bool) :
    Nat → List OpenClass → OpenClass → List Char → Option (Pattern × List Char)
  | 0, _, _, _ => none
  | fuel + 1, around, k, cs =>
    match skip isSpaced cs with
    | [] => none
    | '[' :: rest =>
      match namedClass? rest with
      | some (item, rest) => classEnd? isSpaced fuel around (k.add item) rest
      | none =>
        let (inner, rest) := OpenClass.start isSpaced rest
        classEnd? isSpaced fuel (k :: around) inner rest
    | ']' :: rest =>
      match around with
      | [] => some (.bracket k.isNegated k.set, rest)
      | outer :: around =>
        classEnd? isSpaced fuel around (outer.add (.nested k.isNegated k.set)) rest
    | c :: rest =>
      if c ∈ operatorMarks ∧ rest.head? = some c then
        classEnd? isSpaced fuel around (k.operate c) rest.tail
      else do
        let (item, rest) ← itemOrRange? isSpaced (c :: rest)
        classEnd? isSpaced fuel around (k.add item) rest

def bracketed? (isSpaced : Bool) (cs : List Char) : Option (Pattern × List Char) :=
  let (k, rest) := OpenClass.start isSpaced cs
  classEnd? isSpaced (cs.length + 1) [] k rest

end WalletRecovery.Log.Pattern
