import WalletRecovery.Bytes

/-!
# Bech32

Five-bit groups behind a human-readable prefix, guarded by six groups of checksum.  Segregated
witness addresses are a version group followed by the witness program, regrouped from bytes.
-/

namespace WalletRecovery.Bech32

def alphabet : List Char :=
  ['q', 'p', 'z', 'r', 'y', '9', 'x', '8', 'g', 'f', '2', 't', 'v', 'd', 'w', '0', 's', '3', 'j',
    'n', '5', '4', 'k', 'h', 'c', 'e', '6', 'm', 'u', 'a', '7', 'l']

theorem length_alphabet : alphabet.length = 32 := rfl

theorem nodup_alphabet : alphabet.Nodup := by decide

/-- The coefficients that the checksum polynomial adds for each of the five bits shifted out. -/
def generators : List Nat :=
  [0x3b6a57b2, 0x26508e6d, 0x1ea119fa, 0x3d4233dd, 0x2a1462b3]

/-- What is added to the checksum state when `top` is shifted out of it. -/
def feedback (top : Nat) : Nat :=
  ((List.range 5).zip generators).foldl
    (fun acc ig => if top.testBit ig.1 then acc ^^^ ig.2 else acc) 0

def step (state group : Nat) : Nat :=
  ((state % 0x2000000) <<< 5) ^^^ group ^^^ feedback (state >>> 25)

def polymod (groups : List Nat) : Nat :=
  groups.foldl step 1

/-- The groups that a human-readable prefix adds in front of the data. -/
def expandPrefix (hrp : List Char) : List Nat :=
  hrp.map (fun c => c.toNat / 32) ++ 0 :: hrp.map (fun c => c.toNat % 32)

def checksum (hrp : List Char) (data : List Nat) : List Nat :=
  Numeral.fixed 32 6 (polymod (expandPrefix hrp ++ data ++ List.replicate 6 0) ^^^ 1)

def encode (hrp : List Char) (data : List Nat) : List Char :=
  hrp ++ '1' :: (data ++ checksum hrp data).map fun d => alphabet.getD d 'q'

/-- The five-bit groups of a byte string, filled up with zero bits at the end. -/
def groupsOf {n : Nat} (bs : Bytes n) : List Nat :=
  let count := (8 * n + 4) / 5
  Numeral.fixed 32 count (bs.toNat <<< (5 * count - 8 * n))

def witnessAddress {n : Nat} (hrp : String) (version : Nat) (program : Bytes n) : String :=
  String.ofList (encode hrp.toList (version :: groupsOf program))

end WalletRecovery.Bech32
