import WalletRecovery.Document.Toml.Lexeme

/-!
# Writing TOML

Quoted texts: quotes and backslashes are escaped, controls are spelled out, and every other
character stands for itself.
-/

namespace WalletRecovery.Toml

def escapeChar (c : Char) : List Char :=
  if c = '"' then ['\\', '"']
  else if c = '\\' then ['\\', '\\']
  else if isPlain c then [c]
  else '\\' :: 'u' :: (Numeral.fixed 16 4 c.toNat).map Numeral.hexChar

def quote (s : String) : List Char :=
  '"' :: s.toList.flatMap escapeChar ++ ['"']

def line (key : List Char) (value : List Char) : List Char :=
  key ++ [' ', '=', ' '] ++ value ++ ['\n']

end WalletRecovery.Toml
