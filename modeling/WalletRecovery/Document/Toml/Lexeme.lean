import WalletRecovery.Numeral

/-!
# Pieces of TOML

Blanks, comments, line ends, quoted texts and keys.  A reader takes its piece from the front of a
text and fails without a report if it does not find one.
-/

namespace WalletRecovery.Toml

abbrev Reader := StateT (List Char) Option

def isBlank (c : Char) : Bool :=
  c == ' ' || c == '\t'

/-- Whether a character can stand in a comment: every one but controls. -/
def isPlain (c : Char) : Bool :=
  c == '\t' || (0x20 ≤ c.toNat && c.toNat != 0x7f)

def mark (c : Char) : Reader Unit := fun cs =>
  match cs with
  | d :: rest => if d = c then some ((), rest) else none
  | [] => none

def blanks : Reader Unit := fun cs =>
  some ((), cs.dropWhile isBlank)

def comment : Reader Unit := fun cs =>
  match cs with
  | '#' :: rest => some ((), rest.dropWhile isPlain)
  | _ => some ((), cs)

def lineEnd : Reader Unit := fun cs =>
  match cs with
  | '\n' :: rest => some ((), rest)
  | '\r' :: '\n' :: rest => some ((), rest)
  | [] => some ((), [])
  | _ => none

def trailing : Reader Unit := do
  blanks
  comment
  lineEnd

/-- Skips blanks, line ends and comments, at most `fuel` line ends. -/
def skipLines : Nat → List Char → List Char
  | 0, cs => cs
  | fuel + 1, cs =>
    let afterBlanks := cs.dropWhile isBlank
    let afterComment := match afterBlanks with
      | '#' :: rest => rest.dropWhile isPlain
      | cs => cs
    match afterComment with
    | '\n' :: rest => skipLines fuel rest
    | '\r' :: '\n' :: rest => skipLines fuel rest
    | cs => cs

def lines : Reader Unit := fun cs =>
  some ((), skipLines (cs.length + 1) cs)

def ofHexDigits? (ds : List Char) : Option Char := do
  let n := Numeral.value 16 (← ds.mapM Numeral.hexValue?)
  if n.isValidChar then return Char.ofNat n else none

def escape? : List Char → Option (Char × List Char)
  | 'b' :: rest => some ('\x08', rest)
  | 't' :: rest => some ('\t', rest)
  | 'n' :: rest => some ('\n', rest)
  | 'f' :: rest => some ('\x0c', rest)
  | 'r' :: rest => some ('\r', rest)
  | '"' :: rest => some ('"', rest)
  | '\\' :: rest => some ('\\', rest)
  | 'u' :: rest =>
    if rest.length < 4 then none else (ofHexDigits? (rest.take 4)).map fun c => (c, rest.drop 4)
  | 'U' :: rest =>
    if rest.length < 8 then none else (ofHexDigits? (rest.take 8)).map fun c => (c, rest.drop 8)
  | _ => none

/-- Reads a text in double quotes from behind the first one; `read` holds what was read so far, in
reverse, and `fuel` bounds the number of characters. -/
def basicText : Nat → List Char → List Char → Option (List Char × List Char)
  | 0, _, _ => none
  | _ + 1, _, [] => none
  | _ + 1, read, '"' :: rest => some (read.reverse, rest)
  | fuel + 1, read, '\\' :: rest =>
    match escape? rest with
    | some (c, rest) => basicText fuel (c :: read) rest
    | none => none
  | fuel + 1, read, c :: rest => if isPlain c then basicText fuel (c :: read) rest else none

def literalText (cs : List Char) : Option (List Char × List Char) :=
  let inside := cs.takeWhile fun c => isPlain c && c != '\''
  match cs.drop inside.length with
  | '\'' :: rest => some (inside, rest)
  | _ => none

def quotes (quote : Char) (cs : List Char) : Nat :=
  (cs.takeWhile (· == quote)).length

def skipSpace : List Char → List Char
  | [] => []
  | '\r' :: '\n' :: rest => skipSpace rest
  | c :: rest => if isBlank c || c == '\n' then skipSpace rest else c :: rest

/-- Skips a line end that a backslash hides, and all blanks and line ends behind it. -/
def hiddenLineEnd? (cs : List Char) : Option (List Char) :=
  match cs.dropWhile isBlank with
  | '\n' :: rest => some (skipSpace rest)
  | '\r' :: '\n' :: rest => some (skipSpace rest)
  | _ => none

/-- Reads a text of several lines from behind its three opening quotes.  Up to two quotes may stand
before the three closing ones; `escapes` tells whether backslashes have a meaning. -/
def longText (quote : Char) (escapes : Bool) :
    Nat → List Char → List Char → Option (List Char × List Char)
  | 0, _, _ => none
  | _ + 1, _, [] => none
  | fuel + 1, read, c :: rest =>
    if c = quote then
      let count := quotes quote (c :: rest)
      if 3 ≤ count then
        let inner := min count 5 - 3
        some (read.reverse ++ List.replicate inner quote, rest.drop (inner + 2))
      else longText quote escapes fuel (c :: read) rest
    else if c = '\\' ∧ escapes then
      match hiddenLineEnd? rest with
      | some rest => longText quote escapes fuel read rest
      | none =>
        match escape? rest with
        | some (d, rest) => longText quote escapes fuel (d :: read) rest
        | none => none
    else if c = '\n' ∨ isPlain c then longText quote escapes fuel (c :: read) rest
    else
      match c, rest with
      | '\r', '\n' :: rest => longText quote escapes fuel ('\n' :: read) rest
      | _, _ => none

def dropLineEnd : List Char → List Char
  | '\n' :: rest => rest
  | '\r' :: '\n' :: rest => rest
  | cs => cs

def shortQuoted : Reader String := fun cs =>
  match cs with
  | '"' :: rest =>
    (basicText (rest.length + 1) [] rest).map fun (s, rest) => (String.ofList s, rest)
  | '\'' :: rest => (literalText rest).map fun (s, rest) => (String.ofList s, rest)
  | _ => none

def quoted : Reader String := fun cs =>
  match cs with
  | '"' :: '"' :: '"' :: rest =>
    let rest := dropLineEnd rest
    (longText '"' true (rest.length + 1) [] rest).map fun (s, rest) => (String.ofList s, rest)
  | '\'' :: '\'' :: '\'' :: rest =>
    let rest := dropLineEnd rest
    (longText '\'' false (rest.length + 1) [] rest).map fun (s, rest) => (String.ofList s, rest)
  | _ => shortQuoted cs

def isKeyChar (c : Char) : Bool :=
  c.isAlphanum || c == '-' || c == '_'

def keyPart : Reader String := fun cs =>
  match cs.takeWhile isKeyChar with
  | [] => shortQuoted cs
  | name => some (String.ofList name, cs.drop name.length)

/-- Reads the parts of a key, at most `fuel` of them, with dots between and blanks around them. -/
def keyParts : Nat → Reader (List String)
  | 0 => failure
  | fuel + 1 => do
    blanks
    let part ← keyPart
    blanks
    match ← get with
    | '.' :: rest =>
      set rest
      let parts ← keyParts fuel
      return part :: parts
    | _ => return [part]

def nestingLimit : Nat := 80

def key : Reader (List String) :=
  keyParts (nestingLimit - 1)

end WalletRecovery.Toml
