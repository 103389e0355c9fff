import WalletRecovery.Log.Pattern.Basic

/-!
# Supported regular expressions

Of the regular expressions only those are supported that need no tables of letters and digits of all
scripts, and that match nothing but whole characters.  What a part needs depends on two flags, which
can be set and unset anywhere; a group keeps to itself what is set within it.
-/

namespace WalletRecovery.Log

structure PatternFlags where
  /-- Whether capital and small letters are the same. -/
  ignoresCase : Bool := false
  /-- Whether classes and word boundaries are about all scripts, not only about ASCII. -/
  isUnicode : Bool := true
deriving DecidableEq, Repr

namespace PatternFlags

/-- What letters of flags make of one of them: it is set, or unset if it stands behind a minus sign,
or left alone. -/
def state? (letters : List Char) (flag : Char) : Option Bool :=
  if flag ∈ letters then some (flag ∈ letters.takeWhile (· ≠ '-')) else none

def change (f : PatternFlags) (letters : List Char) : PatternFlags where
  ignoresCase := (state? letters 'i').getD f.ignoresCase
  isUnicode := (state? letters 'u').getD f.isUnicode

end PatternFlags

namespace CharSet

mutual

/-- Whether a set is supported.  Without scripts all of it has to be ASCII; with scripts it cannot
be compared regardless of case, unless it has no members of its own. -/
def isSupported (f : PatternFlags) : CharSet → Bool
  | .empty => true
  | .literal l => if f.isUnicode then ! f.ignoresCase else l.char.toNat < 0x80
  | .range first last =>
    if f.isUnicode then ! f.ignoresCase else first.char.toNat < 0x80 && last.char.toNat < 0x80
  | .named _ isNegated => if f.isUnicode then ! f.ignoresCase else ! isNegated
  | .shorthand letter => ! f.isUnicode && letter.isLower
  | .nested isNegated inner => (f.isUnicode || ! isNegated) && inner.isSupported f
  | .union items => areSupported f items
  | .operation _ left right => left.isSupported f && right.isSupported f

def areSupported (f : PatternFlags) : List CharSet → Bool
  | [] => true
  | item :: rest => item.isSupported f && areSupported f rest

end

end CharSet

namespace Pattern

mutual

/-- The flags that are set behind a pattern, if it is supported. -/
def flagsBehind? (f : PatternFlags) : Pattern → Option PatternFlags
  | .empty => some f
  | .flags letters => some (f.change letters)
  | .literal l =>
    if f.isUnicode then if f.ignoresCase then none else some f
    else if l.isByte && 0x80 ≤ l.char.toNat then none
    else some f
  | .dot => if f.isUnicode then some f else none
  | .anchor => some f
  | .wordBoundary => if f.isUnicode then none else some f
  | .shorthand letter => if ! f.isUnicode && letter.isLower then some f else none
  | .bracket isNegated set =>
    if (f.isUnicode || ! isNegated) && set.isSupported f then some f else none
  | .repetition repeated => repeated.flagsBehind? f
  | .group letters inner => (inner.flagsBehind? (f.change letters)).map fun _ => f
  | .alternation branches => flagsBehindAll? f branches
  | .sequence items => flagsBehindAll? f items

def flagsBehindAll? (f : PatternFlags) : List Pattern → Option PatternFlags
  | [] => some f
  | item :: rest => (item.flagsBehind? f).bind fun f => flagsBehindAll? f rest

end

/-- Whether a pattern is supported. -/
def isSupported (p : Pattern) : Bool :=
  p.depth ≤ maxDepth && (p.flagsBehind? {}).isSome

end Pattern

end WalletRecovery.Log
