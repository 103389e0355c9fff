import WalletRecovery.Numeral
import WalletRecovery.Text.Unshown

/-!
# Quoted texts

Messages show a text that was not understood in double quotes, with everything spelled out that
would be invisible or would end the quotes.
-/

namespace WalletRecovery.Text

def escape (c : Char) : List Char :=
  match c with
  | '"' => ['\\', '"']
  | '\\' => ['\\', '\\']
  | '\n' => ['\\', 'n']
  | '\r' => ['\\', 'r']
  | '\t' => ['\\', 't']
  | '\x00' => ['\\', '0']
  | c =>
    if isUnshown c then ['\\', 'u', '\x7b'] ++ Numeral.hexadecimal c.toNat ++ ['\x7d'] else [c]

def quote (s : String) : String :=
  String.ofList ('"' :: s.toList.flatMap escape ++ ['"'])

end WalletRecovery.Text
