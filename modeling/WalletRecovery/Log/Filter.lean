import WalletRecovery.Log.Directive

/-!
# Log filters

A filter says which events are written.  It is a list of directives, each of which sets a threshold
for some events.  Of the directives that cover an event the most particular one decides, and of
several that are equally so the last; an event that no directive covers is not written.
-/

namespace WalletRecovery.Log

abbrev Filter := List Directive

namespace Filter

def environmentVariable : String := "RUST_LOG"

/-- The filter of a run that says nothing about it. -/
def standard : Filter :=
  [{ threshold := .upTo .warn }]

/-- The filter without any directive lets errors pass. -/
def blank : Filter :=
  [{ threshold := .upTo .error }]

def parse? (text : String) : Option Filter :=
  match ((text.toList.splitOn ',').filter (! ·.isEmpty)).mapM Directive.parse? with
  | some [] => some blank
  | f => f

/-- The filter that the environment variable holds; where it cannot be read, the standard one. -/
def ofVariable (value : Option String) : Filter :=
  (value.bind parse?).getD standard

def directive? (f : Filter) (e : Event) : Option Directive :=
  (f.filter (·.covers e)).foldl (fun best d =>
    match best with
    | none => some d
    | some b => if b.yieldsTo d then some d else best) none

def admits (f : Filter) (e : Event) : Bool :=
  (f.directive? e).any (·.threshold.admits e.level)

end Filter

end WalletRecovery.Log
