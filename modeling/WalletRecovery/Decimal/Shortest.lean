import WalletRecovery.Decimal.Binary64

/-!
# Shortest decimals

The text of a double-precision number has the fewest digits that read back as that number, and of
those the nearest.  A style says where positional notation ends.
-/

namespace WalletRecovery

/-- A decimal number `digits * 10 ^ exponent`. -/
structure Decimal where
  digits : Nat
  exponent : Int
deriving DecidableEq, Repr

namespace Decimal

def normalize : Nat → Decimal → Decimal
  | 0, d => d
  | fuel + 1, d =>
    if d.digits % 10 = 0 ∧ d.digits ≠ 0 then normalize fuel ⟨d.digits / 10, d.exponent + 1⟩ else d

/-- The number of digits before the point of `significand * 2 ^ exponent`, or, negated, the number
of zeros behind it. -/
def magnitude (significand : Nat) (exponent : Int) : Int :=
  let num := significand <<< exponent.toNat
  let den := 1 <<< (-exponent).toNat
  if den ≤ num then (Numeral.decimal (num / den)).length
  else
    match (List.range 400).find? fun zeros => den ≤ num * Nat.pow 10 (zeros + 1) with
    | some zeros => -(zeros : Int)
    | none => 0

/-- The decimal with `count` digits that reads back as `significand * 2 ^ exponent`, if there is
one: of the two neighbours of the number on the grid of such decimals, the nearer that lies between
the midpoints to the next doubles.  Of two equally near ones it is the upper one if `tiesUp`, and
otherwise the even one.  Everything is measured in quarters of the last binary place. -/
def onGrid? (tiesUp : Bool) (significand : Nat) (exponent : Int) (count : Nat) : Option Decimal :=
  let power := magnitude significand exponent - count
  let quarter := exponent - 2
  let left := Nat.pow 10 (-power).toNat <<< quarter.toNat
  let right := Nat.pow 10 power.toNat <<< (-quarter).toNat
  let value := 4 * significand * left
  let below := if significand = 1 <<< 52 ∧ Binary64.leastExponent < exponent then 1 else 2
  let low := (4 * significand - below) * left
  let high := (4 * significand + 2) * left
  let inside := fun c =>
    if significand % 2 = 0 then low ≤ c * right ∧ c * right ≤ high
    else low < c * right ∧ c * right < high
  let down := value / right
  let up := down + 1
  let twice := 2 * (value % right)
  let downIsNearer := twice < right ∨ (twice = right ∧ ¬ tiesUp ∧ down % 2 = 0)
  if inside down ∧ (¬ inside up ∨ downIsNearer) then some ⟨down, power⟩
  else if inside up then some ⟨up, power⟩
  else none

def shortest (tiesUp : Bool) (significand : Nat) (exponent : Int) : Decimal :=
  match (List.range 17).findSome? fun n => onGrid? tiesUp significand exponent (n + 1) with
  | some d => normalize 400 d
  | none => ⟨0, 0⟩

def positional (d : Decimal) : List Char :=
  let digits := Numeral.decimal d.digits
  let count : Int := digits.length
  if 0 ≤ d.exponent then digits ++ List.replicate d.exponent.toNat '0' ++ ['.', '0']
  else if 0 < count + d.exponent then
    let whole := (count + d.exponent).toNat
    digits.take whole ++ '.' :: digits.drop whole
  else '0' :: '.' :: List.replicate (-(count + d.exponent)).toNat '0' ++ digits

/-- The digits of a decimal with one of them before the point, and a power of ten, which has a sign
in any case. -/
def scientific (d : Decimal) : List Char :=
  let digits := Numeral.decimal d.digits
  let power : Int := digits.length + d.exponent - 1
  digits.take 1 ++ (if digits.length = 1 then [] else '.' :: digits.drop 1) ++
    'e' :: (if 0 ≤ power then ['+'] else []) ++ Numeral.signed power

end Decimal

namespace Binary64

inductive Style where
  /-- Every number is written out. -/
  | positional
  /-- Numbers from `10 ^ 16` on, and those below `10 ^ -5`, are written with a power of ten. -/
  | mixed
deriving DecidableEq, Repr

/-- Whether a tie between two shortest texts goes to the greater number, not to the even digit. -/
def Style.tiesUp : Style → Bool
  | positional => true
  | mixed => false

def Style.layout (style : Style) (d : Decimal) : List Char :=
  let count : Int := (Numeral.decimal d.digits).length
  match style with
  | positional => d.positional
  | mixed =>
    if d.digits = 0 ∨ (-5 < count + d.exponent ∧ count + d.exponent ≤ 16) then d.positional
    else d.scientific

def text (style : Style) : Binary64 → String
  | finite negative significand exponent =>
    let d := if significand = 0 then ⟨0, 0⟩ else Decimal.shortest style.tiesUp significand exponent
    String.ofList ((if negative then ['-'] else []) ++ style.layout d)
  | infinity negative => if negative then "-inf" else "inf"
  | nan => "NaN"

end Binary64

end WalletRecovery
