/-!
# Networks

The chains that a wallet can live on.  All but the main one share the kind `test`, which decides the
version bytes of keys and addresses.
-/

namespace WalletRecovery

/-- Whether coins on a chain have value. -/
inductive NetworkKind where
  | main
  | test
deriving DecidableEq, Repr

inductive Network where
  | bitcoin
  | testnet
  | testnet4
  | signet
  | regtest
deriving DecidableEq, Repr

namespace Network

def kind : Network → NetworkKind
  | bitcoin => .main
  | _ => .test

def name : Network → String
  | bitcoin => "bitcoin"
  | testnet => "testnet"
  | testnet4 => "testnet4"
  | signet => "signet"
  | regtest => "regtest"

def all : List Network :=
  [bitcoin, testnet, testnet4, signet, regtest]

def ofName? (s : String) : Option Network :=
  all.find? fun n => n.name = s

def addressPrefix : Network → String
  | bitcoin => "bc"
  | regtest => "bcrt"
  | _ => "tb"

def unknownName (s : String) : String :=
  s!"failed to parse {s} as network"

end Network

def NetworkKind.describe : NetworkKind → String
  | .main => "mainnet"
  | .test => "test network"

end WalletRecovery
