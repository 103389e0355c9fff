import WalletRecovery.Bytes
import WalletRecovery.Log.FieldValue
import WalletRecovery.Log.Threshold
import WalletRecovery.Text.Blank

/-!
# Log directives

A directive sets a threshold for some events: those of the targets that begin with a given text, or
those that have a particular of a given name, or both.  It can also ask for a span, that is, for
something that events happen within, or for the value of a particular; such a directive says nothing
about an event that stands alone.

The places of the marks in a directive are counted in bytes of the text without the blanks around
it, but its parts are cut at these places from the text as it stands.  So the blanks behind a part
at the end belong to it, and a blank in front shifts every part.
-/

namespace WalletRecovery.Log

/-- Cuts a text behind a number of bytes, unless that is in the midst of a character or behind the
end. -/
def splitBytes? : Nat → List Char → Option (List Char × List Char)
  | 0, cs => some ([], cs)
  | _ + 1, [] => none
  | n + 1, c :: cs =>
    if c.utf8Size ≤ n + 1 then
      (splitBytes? (n + 1 - c.utf8Size) cs).map fun (before, behind) => (c :: before, behind)
    else none

def behind? (text : List Char) (place : Nat) : Option (List Char) :=
  (splitBytes? place text).map (·.2)

def between? (text : List Char) (first last : Nat) : Option (List Char) := do
  let (part, _) ← splitBytes? (last - first) (← behind? text first)
  return part

structure FieldPattern where
  name : List Char
  /-- Whether it asks for a value, too. -/
  asksValue : Bool := false
deriving DecidableEq, Repr

/-- Reads a name, or a name and a value with an equals sign between them; what follows a second
equals sign is left out. -/
def FieldPattern.ofText? (cs : List Char) : Option FieldPattern :=
  match cs.splitOn '=' with
  | [] => none
  | [name] => some { name }
  | name :: value :: _ => if isFieldValue value then some ⟨name, true⟩ else none

structure Directive where
  target : List Char := []
  span : Option (List Char) := none
  field : Option FieldPattern := none
  threshold : Threshold
deriving DecidableEq, Repr

namespace Directive

def covers (d : Directive) (e : Event) : Bool :=
  d.span.isNone && d.target.isPrefixOf e.target.toList &&
    d.field.all fun f => ! f.asksValue && e.fieldNames.any (·.toList == f.name)

def fieldName (d : Directive) : List Char :=
  (d.field.map FieldPattern.name).getD []

/-- Whether a directive gives way to another one that covers the same event: the one with the longer
target is more particular, and of two with the same target the one with the greater name. -/
def yieldsTo (a b : Directive) : Bool :=
  a.target.length < b.target.length ||
    (a.target.length == b.target.length && !b.fieldName.lex a.fieldName fun c d => c.toNat < d.toNat)

def canStart (c : Char) : Bool :=
  Text.isAlphanumeric c || c == '-' || c == ':' || c == '_'

/-- The directive that a lone word stands for: a threshold for every event, or a target whose events
are all written. -/
def ofWord (word : List Char) : Directive :=
  match Threshold.ofText? word with
  | some threshold => { threshold }
  | none => { target := word, threshold := .upTo .trace }

/-- Reads the threshold behind an equals sign; where there is none, all is written. -/
def threshold? (text : List Char) (place : Nat) : Option Threshold := do
  match ← behind? text place with
  | [] => return .upTo .trace
  | word => Threshold.ofText? word

def afterBracket? (text : List Char) (place : Nat) : List Char → Option Threshold
  | [] => some (.upTo .trace)
  | '=' :: _ => threshold? text (place + 1)
  | _ => none

/-- Reads what stands behind an opening bracket: the name of a span, a particular in braces, or
both. -/
def bracket? (text target : List Char) (place : Nat) (cs : List Char) : Option Directive := do
  let name := cs.takeWhile fun c => c ≠ ']' && c ≠ '{'
  let nameEnd := place + byteLength name
  let span ← between? text place nameEnd
  match cs.drop name.length with
  | ']' :: rest =>
    let threshold ← afterBracket? text (nameEnd + 1) rest
    return { target, span := some span, threshold }
  | '{' :: rest =>
    let pattern := rest.takeWhile (· ≠ '}')
    let patternEnd := nameEnd + 1 + byteLength pattern
    let field ← between? text (nameEnd + 1) patternEnd
    match rest.drop pattern.length with
    | '}' :: ']' :: rest =>
      if field = [] then failure
      let field ← FieldPattern.ofText? field
      let span := if span = [] then none else some span
      let threshold ← afterBracket? text (patternEnd + 2) rest
      return { target, span, field := some field, threshold }
    | _ => failure
  | _ => failure

def parse? (text : List Char) : Option Directive := do
  let core := Text.trim text
  let first ← core.head?
  if first ≠ '[' ∧ ¬ canStart first then failure
  let head := core.takeWhile fun c => c ≠ '=' && c ≠ '['
  match core.drop head.length with
  | [] => return ofWord text
  | mark :: rest =>
    let target ← between? text 0 (byteLength head)
    if mark = '=' then
      let threshold ← threshold? text (byteLength head + 1)
      return { target, threshold }
    else bracket? text target (byteLength head + 1) rest

end Directive

end WalletRecovery.Log
