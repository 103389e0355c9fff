import WalletRecovery.Document.Toml.Lexeme
import WalletRecovery.Document.Value
import WalletRecovery.Time.Calendar

/-!
# Simple values of TOML

Numbers, truth values, and dates and times without quotes.
-/

namespace WalletRecovery.Toml

open Document (Value)

def digitsWith (isDigit : Char → Bool) (cs : List Char) : Option (List Char × List Char) :=
  let piece := cs.takeWhile fun c => isDigit c || c == '_'
  let digits := piece.filter (· != '_')
  let isProper := piece.head? ≠ some '_' ∧ piece.getLast? ≠ some '_' ∧ piece ≠ [] ∧
    (piece.zip piece.tail).all (fun pair => pair.1 != '_' || pair.2 != '_')
  if isProper then some (digits, cs.drop piece.length) else none

def integer? (n : Int) : Option Value :=
  if -0x8000000000000000 ≤ n ∧ n < 0x8000000000000000 then some (.integer n) else none

def basedInteger (base : Nat) : Reader Value := fun cs => do
  let isDigit := fun c => match Numeral.hexValue? c with
    | some d => decide (d < base)
    | none => false
  let (digits, rest) ← digitsWith isDigit cs
  let n := Numeral.value base (digits.map fun c => (Numeral.hexValue? c).getD 0)
  return (← integer? n, rest)

/-- Reads a sign, if there is one; true stands for minus. -/
def sign : Reader Bool := fun cs =>
  match cs with
  | '-' :: rest => some (true, rest)
  | '+' :: rest => some (false, rest)
  | _ => some (false, cs)

/-- Reads the whole part of a decimal number: a lone zero, or digits that start with none. -/
def wholePart : Reader (List Char) := fun cs =>
  match cs with
  | '0' :: rest => some (['0'], rest)
  | _ => digitsWith Numeral.isDigit cs

def fractionPart : Reader (Option (List Char)) := fun cs =>
  match cs with
  | '.' :: rest => (digitsWith Numeral.isDigit rest).map fun (ds, rest) => (some ds, rest)
  | _ => some (none, cs)

def powerPart : Reader (Option Int) := do
  match ← get with
  | c :: rest =>
    if c = 'e' ∨ c = 'E' then
      set rest
      let negative ← sign
      let digits ← digitsWith Numeral.isDigit
      let n : Int := Numeral.ofDecimal digits
      return some (if negative then -n else n)
    else return none
  | [] => return none

/-- Reads a decimal number.  A fraction or a power of ten makes it a double; one beyond the greatest
double is refused unless it is negative. -/
def decimalNumber : Reader Value := do
  let negative ← sign
  let whole ← wholePart
  let places ← fractionPart
  let power ← powerPart
  if places.isNone ∧ power.isNone then
    let n : Int := Numeral.ofDecimal whole
    integer? (if negative then -n else n)
  else
    let places := places.getD []
    let x := Binary64.ofDecimal negative (Numeral.ofDecimal (whole ++ places))
      (power.getD 0 - places.length)
    if x = .infinity false then failure else return .float x

def word (w : List Char) : Reader Unit := fun cs =>
  if cs.take w.length = w then some ((), cs.drop w.length) else none

def specialNumber : Reader Value := do
  let negative ← sign
  match ← get with
  | 'i' :: _ =>
    word ['i', 'n', 'f']
    return .float (.infinity negative)
  | _ =>
    word ['n', 'a', 'n']
    return .float .nan

def fixedNumber (count low high : Nat) : Reader Nat := fun cs =>
  let digits := (cs.take count).takeWhile Numeral.isDigit
  let n := Numeral.ofDecimal digits
  if digits.length = count ∧ low ≤ n ∧ n ≤ high then some (n, cs.drop count) else none

def date : Reader Unit := do
  let year ← fixedNumber 4 0 9999
  mark '-'
  let month ← fixedNumber 2 1 12
  mark '-'
  let day ← fixedNumber 2 1 31
  if (Date.mk year month day).Exists then return () else failure

def clock : Reader Unit := do
  let _ ← fixedNumber 2 0 23
  mark ':'
  let _ ← fixedNumber 2 0 59
  mark ':'
  let _ ← fixedNumber 2 0 60
  match ← get with
  | '.' :: rest =>
    let digits := rest.takeWhile Numeral.isDigit
    if digits = [] then failure else set (rest.drop digits.length)
  | _ => return ()

def offset : Reader Unit := do
  match ← get with
  | c :: rest =>
    if c = 'Z' ∨ c = 'z' then set rest
    else if c = '+' ∨ c = '-' then
      set rest
      let _ ← fixedNumber 2 0 23
      mark ':'
      let _ ← fixedNumber 2 0 59
    else return ()
  | [] => return ()

/-- Whether a text goes on like a time of day: two digits and a colon. -/
def startsClock (cs : List Char) : Bool :=
  match cs with
  | a :: b :: ':' :: _ => Numeral.isDigit a && Numeral.isDigit b
  | _ => false

/-- Whether a text goes on like a date: four digits and a hyphen. -/
def startsDate (cs : List Char) : Bool :=
  (cs.take 4).all Numeral.isDigit && (cs.drop 4).head? == some '-'

def moment : Reader Value := do
  if startsDate (← get) then
    date
    match ← get with
    | c :: rest =>
      if (c = 'T' ∨ c = 't' ∨ c = ' ') ∧ startsClock rest then
        set rest
        clock
        offset
    | [] => pure ()
  else clock
  return .moment

def numberOrMoment : Reader Value := do
  let cs ← get
  if startsDate cs || startsClock cs then moment
  else
    match cs with
    | '0' :: 'x' :: rest => set rest; basedInteger 16
    | '0' :: 'o' :: rest => set rest; basedInteger 8
    | '0' :: 'b' :: rest => set rest; basedInteger 2
    | _ =>
      match cs.dropWhile fun c => c == '+' || c == '-' with
      | 'i' :: _ => specialNumber
      | 'n' :: _ => specialNumber
      | _ => decimalNumber

def scalar : Reader Value := do
  match ← get with
  | 't' :: _ =>
    word ['t', 'r', 'u', 'e']
    return .boolean true
  | 'f' :: _ =>
    word ['f', 'a', 'l', 's', 'e']
    return .boolean false
  | _ => numberOrMoment

end WalletRecovery.Toml
