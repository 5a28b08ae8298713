/-
  DidLedger/Json/Number.lean
  ==========================
  **Numbers in JSON.**

  A numeral without a point and an exponent is an integer as long as it fits
  64 bits, with or without a sign; every other numeral is a binary
  floating-point number, and `-0` is one too, since only there zero has a sign.

  The digits of a numeral are gathered into a word of 64 bits.  A digit that no
  longer fits is dropped together with the digits after it in the same part of
  the numeral; before the point each dropped digit still counts as a power of
  ten.
-/
import DidLedger.Decimal.Shortest

namespace DidLedger.Json

open DidLedger.Decimal

inductive Number where
  /-- An integer of at most 64 bits. -/
  | integer (value : Int)
  | real (value : Binary64)
deriving DecidableEq, Repr

/-! ### Writing -/

/-- Floating-point numbers are written out between a hundred-thousandth and
    ten quadrillion and with a signed exponent elsewhere. -/
def Number.layout : Layout where
  minPositional := -5
  maxPositional := 15
  mark := ['e']
  plus := ['+']

def renderInteger : Int → List Char
  | .ofNat n => Nat.toDigits 10 n
  | .negSucc n => '-' :: Nat.toDigits 10 (n + 1)

def Number.chars : Number → List Char
  | .integer value => renderInteger value
  | .real value => value.render Number.layout

/-! ### Reading -/

/-- A numeral as it is written. -/
structure Numeral where
  negative : Bool
  whole : List Char
  /-- The digits after the point, none if there is no point. -/
  fraction : List Char
  /-- The power of ten, if one is written. -/
  exponent : Option Int
deriving DecidableEq, Repr

/-- The first value that a word of 64 bits cannot hold. -/
def wordLimit : Nat := UInt64.size

/-- Appends digits to a word while they fit, and counts them. -/
def gather (word : Nat) : List Char → Nat × Nat
  | [] => (word, 0)
  | c :: cs =>
    let next := word * 10 + (c.toNat - '0'.toNat)
    if next < wordLimit then
      let (final, count) := gather next cs
      (final, count + 1)
    else (word, 0)

/-- The floating-point number of a numeral, if it is finite. -/
def Numeral.real? (n : Numeral) : Option Binary64 :=
  let (word, kept) := gather 0 n.whole
  let (word, places) := gather word n.fraction
  let exponent : Int := ((n.whole.length - kept : Nat) : Int) - (places : Int) + n.exponent.getD 0
  Binary64.ofParts n.negative word exponent

/-- The integer of a numeral that has neither a point nor an exponent, if it
    fits. -/
def Numeral.integer? (n : Numeral) : Option Int :=
  let magnitude := Nat.ofDigitChars 10 n.whole 0
  if !n.fraction.isEmpty || n.exponent.isSome then none
  else if n.negative then
    if 0 < magnitude ∧ magnitude ≤ wordLimit / 2 then some (-(magnitude : Int)) else none
  else if magnitude < wordLimit then some magnitude else none

/-- The number of a numeral, none if it is too large for a floating-point
    number. -/
def Numeral.value? (n : Numeral) : Option Number :=
  match n.integer? with
  | some value => some (.integer value)
  | none => n.real?.map .real

end DidLedger.Json
