import WalletRecovery.Log.Pattern.Parser

/-!
# Values of particulars

A directive can ask for the value of a particular: a truth value, a number or a pattern.  Every
truth value and every number is a pattern, too, unless it begins with a plus sign.
-/

namespace WalletRecovery.Log

def isPositive : List Char → Bool
  | '+' :: rest =>
    let name := rest.map Char.toLower
    let whole := rest.takeWhile Numeral.isDigit
    let behind := rest.drop whole.length
    let fraction := if behind.head? = some '.' then behind.tail.takeWhile Numeral.isDigit else []
    let behind :=
      if behind.head? = some '.' then behind.tail.dropWhile Numeral.isDigit else behind
    let isExponent := match behind with
      | [] => true
      | e :: power =>
        let digits := if power.head? = some '+' ∨ power.head? = some '-' then power.tail else power
        e.toLower == 'e' && digits ≠ [] && digits.all Numeral.isDigit
    name = "inf".toList || name = "infinity".toList || name = "nan".toList ||
      ((whole ≠ [] || fraction ≠ []) && isExponent)
  | _ => false

/-- Whether a text can stand for the value of a particular. -/
def isFieldValue (cs : List Char) : Bool :=
  isPositive cs || (Pattern.parse? cs).any (·.isSupported)

end WalletRecovery.Log
