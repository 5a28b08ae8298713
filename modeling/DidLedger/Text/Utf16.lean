/-
  DidLedger/Text/Utf16.lean
  =========================
  **UTF-16 in either byte order, read with replacement.**

  Octets are paired into code units, and units into characters.  A surrogate
  without its partner, and an octet left over at the end, become one
  replacement character; when both happen at the end of the input they become
  one together.
-/
namespace DidLedger.Text.Utf16

/-- Which octet of a code unit comes first. -/
inductive ByteOrder where
  | little
  | big
deriving DecidableEq, Repr

/-- The code unit of two octets. -/
def ByteOrder.unit : ByteOrder → UInt8 → UInt8 → Nat
  | .little, a, b => b.toNat * 0x100 + a.toNat
  | .big, a, b => a.toNat * 0x100 + b.toNat

/-- The first half of a character above FFFF. -/
def isHigh (unit : Nat) : Bool := decide (0xD800 ≤ unit ∧ unit < 0xDC00)

/-- The second half of a character above FFFF. -/
def isLow (unit : Nat) : Bool := decide (0xDC00 ≤ unit ∧ unit < 0xE000)

/-- The mark that stands for units that are no character. -/
def replacement : Char := '\uFFFD'

/-- Reads octets, `high` being a first half that waits for its second. -/
def decodeFrom (order : ByteOrder) : Option Nat → List UInt8 → List Char
  | none, [] => []
  | some _, [] => [replacement]
  | _, [_] => [replacement]
  | none, a :: b :: bs =>
    let unit := order.unit a b
    if isHigh unit then decodeFrom order (some unit) bs
    else if isLow unit then replacement :: decodeFrom order none bs
    else Char.ofNat unit :: decodeFrom order none bs
  | some high, a :: b :: bs =>
    let unit := order.unit a b
    if isLow unit then
      Char.ofNat (0x10000 + (high - 0xD800) * 0x400 + (unit - 0xDC00)) :: decodeFrom order none bs
    else
      replacement ::
        (if isHigh unit then decodeFrom order (some unit) bs
         else Char.ofNat unit :: decodeFrom order none bs)

/-- The text of octets in the given order. -/
def decodeLossy (order : ByteOrder) (bs : List UInt8) : String :=
  String.ofList (decodeFrom order none bs)

end DidLedger.Text.Utf16
