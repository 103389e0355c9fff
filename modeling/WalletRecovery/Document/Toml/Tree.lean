import WalletRecovery.Document.Value

/-!
# Trees of TOML

The tables that the expressions of a document build up.  A table remembers how it came about, which
decides what may still be added to it: headers define a table once, dotted keys only extend tables
that dotted keys began.
-/

namespace WalletRecovery.Toml

open Document (Value)

/-- How a table came about. -/
inductive Origin where
  /-- A header named it, or it is the whole document. -/
  | header
  /-- A header named a table inside it. -/
  | implied
  /-- A dotted key leads through it. -/
  | dotted
deriving DecidableEq, Repr

inductive Node where
  | value (v : Value)
  | table (origin : Origin) (fields : List (String × Node))
  /-- The tables of an array that grows by headers. -/
  | tables (items : List (List (String × Node)))
deriving Inhabited

abbrev Fields := List (String × Node)

namespace Fields

/-- Changes what stands at a key; a new key goes to the end. -/
def update (key : String) (change : Option Node → Option Node) : Fields → Option Fields
  | [] => (change none).map fun node => [(key, node)]
  | (name, node) :: rest =>
    if name = key then (change (some node)).map fun node => (name, node) :: rest
    else (update key change rest).map ((name, node) :: ·)

/-- Changes the table at the end of a path, given how it came about.  Tables that are missing on the
way are made with the origin `made`; of an array of tables the last one is meant. -/
def descend (made : Origin) (change : Origin → Fields → Option Fields) :
    List String → Origin → Fields → Option Fields
  | [], origin, fields => change origin fields
  | key :: path, _, fields =>
    fields.update key fun
      | none => (descend made change path made []).map (Node.table made)
      | some (.value _) => none
      | some (.table origin inner) =>
        if made = .dotted ∧ origin = .header then none
        else (descend made change path origin inner).map (Node.table origin)
      | some (.tables items) =>
        match items.getLast? with
        | none => none
        | some last =>
          (descend made change path .header last).map fun last =>
            Node.tables (items.dropLast ++ [last])

/-- Adds a field to a table; `isShort` tells whether its key has a single part.  Only tables made by
dotted keys are reached by dotted keys. -/
def add (key : String) (v : Value) (isShort : Bool) (origin : Origin) (fields : Fields) :
    Option Fields :=
  if isShort = decide (origin = .dotted) then none
  else if (List.lookup key fields).isSome then none
  else some (fields ++ [(key, .value v)])

def assign (key : List String) (v : Value) (origin : Origin) (fields : Fields) : Option Fields :=
  match key.getLast? with
  | none => none
  | some name => fields.descend .dotted (add name v (key.length = 1)) key.dropLast origin

def assignBelow (header key : List String) (v : Value) (root : Fields) : Option Fields :=
  root.descend .implied (assign key v) header .header

/-- Begins the table that a header names.  A table that was only implied so far moves to the end. -/
def beginTable (header : List String) (root : Fields) : Option Fields :=
  match header.getLast? with
  | none => none
  | some name =>
    let opened := fun (_ : Origin) (fields : Fields) =>
      match List.lookup name fields with
      | none => some (fields ++ [(name, .table .header [])])
      | some (.table .implied inner) =>
        some (fields.filter (·.1 ≠ name) ++ [(name, .table .header inner)])
      | some _ => none
    root.descend .implied opened header.dropLast .header

def beginItem (header : List String) (root : Fields) : Option Fields :=
  match header.getLast? with
  | none => none
  | some name =>
    let opened := fun (_ : Origin) (fields : Fields) =>
      fields.update name fun
        | none => some (.tables [[]])
        | some (.tables items) => some (.tables (items ++ [[]]))
        | some _ => none
    root.descend .implied opened header.dropLast .header

end Fields

mutual

def Node.toValue : Node → Value
  | .value v => v
  | .table _ fields => .table (Node.toValues fields)
  | .tables items => .list (Node.toTables items)

def Node.toValues : List (String × Node) → List (String × Value)
  | [] => []
  | (name, node) :: rest => (name, node.toValue) :: Node.toValues rest

def Node.toTables : List (List (String × Node)) → List Value
  | [] => []
  | fields :: rest => .table (Node.toValues fields) :: Node.toTables rest

end

end WalletRecovery.Toml
