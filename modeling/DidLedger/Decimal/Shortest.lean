/-
  DidLedger/Decimal/Shortest.lean
  ===============================
  **The fewest digits that read back as the same number.**

  For one digit, two digits and so on the two decimals of that many digits next
  to the number are tried; the first length at which one of them rounds to the
  number wins, and of two the nearer, a tie going to the even digit.  Seventeen
  digits always suffice.

  `Layout` holds what is a matter of format: which exponents are written out in
  positional notation, and how the others are marked.
-/
import DidLedger.Decimal.Binary64

namespace DidLedger.Decimal

/-- The decimal `digits · 10 ^ exponent`, without trailing zeros in `digits`. -/
structure Scientific where
  digits : Nat
  exponent : Int
deriving DecidableEq, Repr

namespace Scientific

/-- The number of decimal digits of a natural, one for zero. -/
def width (n : Nat) : Nat := (Nat.toDigits 10 n).length

/-- The power of ten of the first digit. -/
def leading (s : Scientific) : Int := s.exponent + (width s.digits : Int) - 1

/-- Takes zeros off the end of `n`, raising the exponent by one for each. -/
def strip (fuel : Nat) (s : Scientific) : Scientific :=
  match fuel with
  | 0 => s
  | fuel + 1 => if s.digits ≠ 0 ∧ s.digits % 10 = 0 then strip fuel ⟨s.digits / 10, s.exponent + 1⟩ else s

/-- The quotient `n / d` in units of `10 ^ exponent`, as a quotient. -/
def inUnits (n d : Nat) (exponent : Int) : Nat × Nat :=
  match exponent with
  | .ofNat k => (n, d * Nat.pow 10 k)
  | .negSucc k => (n * Nat.pow 10 (k + 1), d)

/-- The rank nearest to the decimal `digits · 10 ^ exponent`. -/
def nearestRank (digits : Nat) (exponent : Int) : Option (Fin rankLimit) :=
  match exponent with
  | .ofNat k => Binary64.nearest (digits * Nat.pow 10 k) 1
  | .negSucc k => Binary64.nearest digits (Nat.pow 10 (k + 1))

/-- The power of ten of the first digit of `n / d`. -/
def leadingOf (n d : Nat) : Int :=
  let guess : Int := (width n : Int) - width d
  let (a, b) := inUnits n d guess
  if b ≤ a then guess else guess - 1

/-- The decimal in units of `10 ^ exponent` that reads back as `rank`, if one
    of the two next to it does. -/
def atExponent? (rank : Fin rankLimit) (exponent : Int) : Option Scientific :=
  let (a, b) := inUnits (Binary64.numerator rank) Binary64.denominator exponent
  let below := a / b
  let fits (digits : Nat) : Bool := nearestRank digits exponent == some rank
  let preferAbove := decide (b < 2 * (a % b)) || (b == 2 * (a % b) && below % 2 == 1)
  match fits below, fits (below + 1) with
  | true, true => some ⟨if preferAbove then below + 1 else below, exponent⟩
  | true, false => some ⟨below, exponent⟩
  | false, true => some ⟨below + 1, exponent⟩
  | false, false => none

/-- The shortest decimal that reads back as `rank`, of at most seventeen
    digits. -/
def ofRank (rank : Fin rankLimit) : Scientific :=
  let leading := leadingOf (Binary64.numerator rank) Binary64.denominator
  let found := (List.range 17).findSome? fun (n : Nat) => atExponent? rank (leading - (n : Int))
  strip 17 (found.getD ⟨0, 0⟩)

end Scientific

/-! ### Layout -/

/-- How a decimal is laid out as text. -/
structure Layout where
  /-- The least power of ten of the first digit that is written positionally. -/
  minPositional : Int
  maxPositional : Int
  mark : List Char
  /-- The sign of an exponent that is not negative. -/
  plus : List Char

/-- Digits up to the power of ten `leading`, with a point and at least one
    digit after it. -/
def positional (digits : List Char) (leading : Int) : List Char :=
  match leading with
  | .ofNat k =>
    let whole := digits.take (k + 1)
    let fraction := digits.drop (k + 1)
    whole ++ List.replicate (k + 1 - whole.length) '0' ++ '.' ::
      (if fraction.isEmpty then ['0'] else fraction)
  | .negSucc k => '0' :: '.' :: List.replicate k '0' ++ digits

/-- The first digit, the others after a point, and the exponent. -/
def exponential (layout : Layout) (digits : List Char) (leading : Int) : List Char :=
  let fraction := digits.drop 1
  digits.take 1 ++ (if fraction.isEmpty then [] else '.' :: fraction) ++ layout.mark ++
    match leading with
    | .ofNat k => layout.plus ++ Nat.toDigits 10 k
    | .negSucc k => '-' :: Nat.toDigits 10 (k + 1)

def Layout.render (layout : Layout) (s : Scientific) : List Char :=
  let digits := Nat.toDigits 10 s.digits
  let leading := s.leading
  if layout.minPositional ≤ leading ∧ leading ≤ layout.maxPositional then positional digits leading
  else exponential layout digits leading

/-- A number as text, by its shortest decimal. -/
def Binary64.render (layout : Layout) (x : Binary64) : List Char :=
  (if x.negative then ['-'] else []) ++
    (if x.rank.val = 0 then positional ['0'] 0 else layout.render (Scientific.ofRank x.rank))

end DidLedger.Decimal
