/-
  DidLedger/Text/Hex.lean
  =======================
  **Hexadecimal digits.**

  A digit is read in either case and written in the case the caller asks for:
  bytes are shown in lower case, percent escapes in upper case.
-/
namespace DidLedger.Text.Hex

/-- The value of a hexadecimal digit of either case. -/
def digit? (c : Char) : Option Nat :=
  if '0' ≤ c ∧ c ≤ '9' then some (c.toNat - '0'.toNat)
  else if 'a' ≤ c ∧ c ≤ 'f' then some (c.toNat - 'a'.toNat + 10)
  else if 'A' ≤ c ∧ c ≤ 'F' then some (c.toNat - 'A'.toNat + 10)
  else none

/-- The lower-case digit of a value below 16. -/
def lower (n : Nat) : Char :=
  if n < 10 then Char.ofNat ('0'.toNat + n) else Char.ofNat ('a'.toNat + (n - 10))

/-- The upper-case digit of a value below 16. -/
def upper (n : Nat) : Char :=
  if n < 10 then Char.ofNat ('0'.toNat + n) else Char.ofNat ('A'.toNat + (n - 10))

def encode (bytes : List UInt8) : String :=
  String.ofList (bytes.flatMap fun b => [lower (b.toNat / 16), lower (b.toNat % 16)])

def decodeChars? : List Char → Option (List UInt8)
  | [] => some []
  | [_] => none
  | a :: b :: rest => do
    let high ← digit? a
    let low ← digit? b
    let bytes ← decodeChars? rest
    return UInt8.ofNat (high * 16 + low) :: bytes

/-- The bytes written as pairs of digits. -/
def decode? (s : String) : Option (List UInt8) :=
  decodeChars? s.toList

end DidLedger.Text.Hex
