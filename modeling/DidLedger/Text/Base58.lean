/-
  DidLedger/Text/Base58.lean
  ==========================
  **Base 58, as public keys are written on the ledger.**

  A key is a number in base 58, most significant digit first, over the digits
  and letters without the four that are easily confused.  Zero bytes at the
  front carry no weight in a number, so each of them is written as one leading
  `1`, the digit zero.
-/
namespace DidLedger.Text.Base58

def alphabet : List Char :=
  "123456789ABCDEFGHJKLMNPQRSTUVWXYZabcdefghijkmnopqrstuvwxyz".toList

/-- The digit zero, which also stands for a leading zero byte. -/
def zeroDigit : Char := '1'

def digit? (c : Char) : Option Nat :=
  alphabet.idxOf? c

def digitChar (n : Nat) : Char :=
  alphabet.getD n zeroDigit

/-- The places of a number in a base, most significant first, none for zero. -/
def places (base : Nat) (n : Nat) : List Nat :=
  if _h : base < 2 ∨ n = 0 then []
  else places base (n / base) ++ [n % base]
termination_by n
decreasing_by exact Nat.div_lt_self (by omega) (by omega)

/-- The number with the given places, most significant first. -/
def ofPlaces (base : Nat) (ds : List Nat) : Nat :=
  ds.foldl (fun n d => n * base + d) 0

/-! ### Writing -/

def encode (bytes : List UInt8) : String :=
  let zeros := bytes.takeWhile (· == 0)
  let number := ofPlaces 256 (bytes.map UInt8.toNat)
  String.ofList (zeros.map (fun _ => zeroDigit) ++ (places 58 number).map digitChar)

/-! ### Reading -/

/-- The bytes that a text stands for, or none if some character is no digit. -/
def decode? (s : String) : Option (List UInt8) := do
  let digits ← s.toList.mapM digit?
  let zeros := digits.takeWhile (· == 0)
  return zeros.map (fun _ => 0) ++ (places 256 (ofPlaces 58 digits)).map UInt8.ofNat

end DidLedger.Text.Base58
