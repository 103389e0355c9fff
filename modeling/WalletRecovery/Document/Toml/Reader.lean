import WalletRecovery.Document.Toml.Scalar
import WalletRecovery.Document.Toml.Tree

/-!
# Reading TOML

Values with arrays and inline tables, expressions, and whole documents.
-/

namespace WalletRecovery.Toml

open Document (Value)

/-- Reads the items of an array from behind the bracket, at most `fuel` of them; `read` holds those
read so far, in reverse. -/
def items (item : Reader Value) : Nat → List Value → Reader (List Value)
  | 0, _ => failure
  | fuel + 1, read => do
    lines
    match ← get with
    | ']' :: rest =>
      set rest
      return read.reverse
    | _ =>
      let v ← item
      lines
      match ← get with
      | ',' :: rest =>
        set rest
        items item fuel (v :: read)
      | _ =>
        mark ']'
        return (v :: read).reverse

/-- Reads the fields of an inline table from behind the brace up to the one that closes it, at most
`fuel` of them. -/
def inlineFields (item : Reader Value) : Nat → Fields → Reader Fields
  | 0, _ => failure
  | fuel + 1, fields => do
    let path ← key
    mark '='
    blanks
    let v ← item
    blanks
    let fields ← liftM (fields.assign path v .header)
    match ← get with
    | ',' :: rest =>
      set rest
      inlineFields item fuel fields
    | _ =>
      mark '\x7d'
      return fields

/-- Reads a value; `depth` is how deep it can be nested. -/
def value : Nat → Reader Value
  | 0 => failure
  | depth + 1 => do
    let cs ← get
    match cs with
    | '"' :: _ => return .text (← quoted)
    | '\'' :: _ => return .text (← quoted)
    | '[' :: rest =>
      if depth = 0 then failure
      set rest
      return .list (← items (value depth) (rest.length + 1) [])
    | '\x7b' :: rest =>
      if depth = 0 then failure
      set rest
      blanks
      match ← get with
      | '\x7d' :: rest =>
        set rest
        return .table []
      | _ => return .table (Node.toValues (← inlineFields (value depth) (rest.length + 1) []))
    | _ => scalar

/-- A document up to a point: its tree, and the header that was last seen. -/
structure Progress where
  root : Fields := []
  header : List String := []

def assignment (p : Progress) : Reader Progress := do
  let path ← key
  mark '='
  blanks
  let v ← value nestingLimit
  trailing
  let root ← liftM (Fields.assignBelow p.header path v p.root)
  return { p with root := root }

def header (p : Progress) : Reader Progress := do
  match ← get with
  | '[' :: rest =>
    set rest
    let path ← key
    mark ']'
    mark ']'
    trailing
    return ⟨← liftM (p.root.beginItem path), path⟩
  | _ =>
    let path ← key
    mark ']'
    trailing
    return ⟨← liftM (p.root.beginTable path), path⟩

def expressions : Nat → Progress → Reader Progress
  | 0, _ => failure
  | fuel + 1, p => do
    lines
    match ← get with
    | [] => return p
    | '[' :: rest =>
      set rest
      expressions fuel (← header p)
    | _ => expressions fuel (← assignment p)

/-- The fields of a document, in the order in which they appear; a byte order mark may stand in
front of it. -/
def parse (text : String) : Option (List (String × Value)) :=
  let cs := match text.toList with
    | '\ufeff' :: rest => rest
    | cs => cs
  ((expressions (cs.length + 1) {}).run cs).map fun (p, _) => Node.toValues p.root

end WalletRecovery.Toml
