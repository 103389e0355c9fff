import WalletRecovery.Log.Pattern.Bracket
import WalletRecovery.Log.Pattern.Support
import WalletRecovery.Text.Alphanumeric

/-!
# Reading regular expressions

A pattern is read item by item; the groups that are not closed yet are kept on a stack.  Counted
repetitions and classes in braces do not occur, because a directive ends its particular at the first
closing brace; looking ahead or behind is not supported.
-/

namespace WalletRecovery.Log.Pattern

/-- The letters of all flags, and the minus sign, behind which flags are unset. -/
def flagLetters : List Char :=
  ['i', 'm', 's', 'U', 'u', 'R', 'x', '-']

/-- Whether flags can be set together: none twice, and no minus sign twice or at the end. -/
def areFlags (letters : List Char) : Bool :=
  letters.all (· ∈ flagLetters) && letters.Nodup && letters.getLast? != some '-'

def isGroupName : List Char → Bool
  | [] => false
  | c :: rest =>
    (c == '_' || Text.isAlphabetic c) &&
      rest.all fun c => Text.isAlphanumeric c || c ∈ ['_', '.', '[', ']']

inductive Opening where
  /-- A group, with a name if it has one and the letters of its flags. -/
  | group (name : Option (List Char)) (letters : List Char)
  /-- No group, but flags for what follows. -/
  | flags (letters : List Char)
deriving DecidableEq, Repr

def groupName? (cs : List Char) : Option (Opening × List Char) :=
  let name := cs.takeWhile (· ≠ '>')
  match cs.drop name.length with
  | '>' :: rest => if isGroupName name then some (.group (some name) [], rest) else none
  | _ => none

def opening? : List Char → Option (Opening × List Char)
  | '?' :: 'P' :: '<' :: rest => groupName? rest
  | '?' :: '<' :: rest => groupName? rest
  | '?' :: rest =>
    let letters := rest.takeWhile fun c => c ≠ ':' && c ≠ ')'
    match rest.drop letters.length with
    | ':' :: rest => if areFlags letters then some (.group none letters, rest) else none
    | ')' :: rest => if areFlags letters ∧ letters ≠ [] then some (.flags letters, rest) else none
    | _ => none
  | rest => some (.group none [], rest)

structure Level where
  /-- The branches that are complete, the last one first. -/
  branches : List Pattern := []
  /-- The items of the current branch, the last one first. -/
  items : List Pattern := []

def Level.add (l : Level) (item : Pattern) : Level :=
  { l with items := item :: l.items }

def Level.branch (l : Level) : Level where
  branches := ofItems l.items.reverse :: l.branches

def Level.pattern (l : Level) : Pattern :=
  ofBranches l.branch.branches.reverse

def Level.repeatLast? (l : Level) : Option Level :=
  match l.items with
  | [] => none
  | .flags _ :: _ => none
  | item :: items => some { l with items := .repetition item :: items }

structure OpenGroup where
  letters : List Char
  /-- Whether the text around it is spaced freely. -/
  isSpaced : Bool
  /-- What stands in front of it. -/
  around : Level

structure Reader where
  rest : List Char
  level : Level := {}
  /-- The groups that are open, the innermost first. -/
  groups : List OpenGroup := []
  /-- The names of the groups so far. -/
  names : List (List Char) := []
  /-- Whether blanks and comments are skipped. -/
  isSpaced : Bool := false

namespace Reader

def add (r : Reader) (item : Pattern) (rest : List Char) : Reader :=
  { r with level := r.level.add item, rest }

def isSpacedAfter (r : Reader) (letters : List Char) : Bool :=
  (PatternFlags.state? letters 'x').getD r.isSpaced

/-- Opens a group or sets flags.  No two groups have the same name. -/
def openGroup? (r : Reader) (rest : List Char) : Option Reader := do
  match ← opening? (skip r.isSpaced rest) with
  | (.flags letters, rest) =>
    return { r.add (.flags letters) rest with isSpaced := r.isSpacedAfter letters }
  | (.group name letters, rest) =>
    if name.any (· ∈ r.names) then failure
    let groups := ⟨letters, r.isSpaced, r.level⟩ :: r.groups
    let names := name.toList ++ r.names
    return { rest, groups, names, isSpaced := r.isSpacedAfter letters }

def closeGroup? (r : Reader) (rest : List Char) : Option Reader :=
  match r.groups with
  | [] => none
  | g :: groups =>
    let item := .group g.letters r.level.pattern
    some { r with rest, level := g.around.add item, groups, isSpaced := g.isSpaced }

def ofEscape : Escape → Pattern
  | .literal l => .literal l
  | .shorthand letter => .shorthand letter
  | .anchor => .anchor
  | .wordBoundary => .wordBoundary

def step? (r : Reader) (c : Char) (rest : List Char) : Option Reader :=
  match c with
  | '(' => r.openGroup? rest
  | ')' => r.closeGroup? rest
  | '|' => some { r with level := r.level.branch, rest }
  | '[' => (bracketed? r.isSpaced rest).map fun (item, rest) => r.add item rest
  | '?' | '*' | '+' => do
    let rest := if rest.head? = some '?' then rest.tail else rest
    return { r with level := ← r.level.repeatLast?, rest }
  | '\x7b' => none
  | '\\' => (escape? r.isSpaced rest).map fun (e, rest) => r.add (ofEscape e) rest
  | '.' => some (r.add .dot rest)
  | '^' | '$' => some (r.add .anchor rest)
  | _ => some (r.add (.literal { char := c }) rest)

/-- Reads a pattern to its end; `fuel` bounds the number of items. -/
def finish? : Nat → Reader → Option Pattern
  | 0, _ => none
  | fuel + 1, r =>
    match skip r.isSpaced r.rest with
    | [] => if r.groups.isEmpty then some r.level.pattern else none
    | c :: rest => (r.step? c rest).bind (finish? fuel)

end Reader

/-- Reads a pattern.  Every item takes a character at least. -/
def parse? (cs : List Char) : Option Pattern :=
  Reader.finish? (cs.length + 1) { rest := cs }

end WalletRecovery.Log.Pattern
