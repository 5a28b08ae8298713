/-
  DidLedger/Decimal/Binary64.lean
  ===============================
  **Finite binary floating-point numbers of 64 bits, in exact arithmetic.**

  A number is a sign and a rank: its place among the non-negative finite
  numbers in ascending order.  The rank determines a significand and an
  exponent of two, and neighbouring ranks are neighbouring numbers, so rounding
  a quotient is a division of naturals and "the next number up" is `rank + 1`.
  Nothing here computes with machine floats: every operation is a function on
  naturals that can be unfolded.

  `nearest` rounds a quotient to the nearest number, ties to the even
  significand.  `ofParts` is the rule by which a decimal numeral becomes a
  number: the significand is rounded first, then multiplied or divided by the
  number nearest to the power of ten, and the product is rounded again.  The
  two roundings are part of the rule; a numeral with more than fifteen digits
  can end one rank away from the nearest number.
-/
namespace DidLedger.Decimal

/-- The number of ranks of each sign. -/
def rankLimit : Nat := 0x7FF * Nat.pow 2 52

structure Binary64 where
  /-- Whether the number carries a minus sign; zero comes with both signs. -/
  negative : Bool
  /-- The place of the magnitude among the finite magnitudes. -/
  rank : Fin rankLimit
deriving DecidableEq, Repr

namespace Binary64

/-! ### Magnitudes as quotients -/

/-- The whole number whose multiple by a power of two is the magnitude. -/
def significand (rank : Nat) : Nat :=
  if rank < Nat.pow 2 52 then rank else rank % Nat.pow 2 52 + Nat.pow 2 52

/-- The exponent of that power of two, raised by 1074 so that it is natural. -/
def biasedExponent (rank : Nat) : Nat :=
  rank / Nat.pow 2 52 - 1

/-- The numerator of the magnitude over a denominator of `2 ^ 1074`. -/
def numerator (rank : Nat) : Nat :=
  significand rank * Nat.pow 2 (biasedExponent rank)

/-- The common denominator of all finite magnitudes. -/
def denominator : Nat := Nat.pow 2 1074

/-! ### Rounding -/

/-- A quotient to the nearest whole number, a tie to the even one. -/
def roundDiv (n d : Nat) : Nat :=
  if 2 * (n % d) < d then n / d
  else if d < 2 * (n % d) then n / d + 1
  else n / d + n / d % 2

/-- The biased exponent of the binade in which `n / d` lies, zero below the
    smallest normal number. -/
def binade (n d : Nat) : Nat :=
  let scaled := n * denominator / d
  scaled.log2 - 52

/-- The rank of the number nearest to `n / d`, if it is finite. -/
def nearest (n d : Nat) : Option (Fin rankLimit) :=
  let exponent := binade n d
  let rank := exponent * Nat.pow 2 52 + roundDiv (n * denominator) (d * Nat.pow 2 exponent)
  if h : rank < rankLimit then some ⟨rank, h⟩ else none

/-- The product of two magnitudes, rounded. -/
def mulRank (a b : Fin rankLimit) : Option (Fin rankLimit) :=
  nearest (numerator a * numerator b) (denominator * denominator)

/-- The quotient of two magnitudes, rounded. -/
def divRank (a b : Fin rankLimit) : Option (Fin rankLimit) :=
  nearest (numerator a) (numerator b)

/-! ### Decimal numerals -/

/-- The largest power of ten that is finite. -/
def maxPower : Nat := 308

/-- The rank of a magnitude divided by `10 ^ k`, in steps of at most
    `10 ^ 308` that are rounded one by one. -/
def divPower (rank : Fin rankLimit) (k : Nat) : Option (Fin rankLimit) :=
  if rank.val = 0 then some rank
  else if _h : k ≤ maxPower then do divRank rank (← nearest (Nat.pow 10 k) 1)
  else do divPower (← divRank rank (← nearest (Nat.pow 10 maxPower) 1)) (k - maxPower)
termination_by k
decreasing_by simp only [maxPower] at *; omega

/-- The rank of a magnitude times `10 ^ k`, if it is finite. -/
def mulPower (rank : Fin rankLimit) (k : Nat) : Option (Fin rankLimit) :=
  if rank.val = 0 then some rank
  else if k ≤ maxPower then do mulRank rank (← nearest (Nat.pow 10 k) 1)
  else none

/-- The number of the numeral `significand · 10 ^ exponent`, if it is finite. -/
def ofParts (negative : Bool) (significand : Nat) (exponent : Int) : Option Binary64 := do
  let rank ← nearest significand 1
  match exponent with
  | .ofNat k => return ⟨negative, ← mulPower rank k⟩
  | .negSucc k => return ⟨negative, ← divPower rank (k + 1)⟩

end Binary64
end DidLedger.Decimal
