/-
  DidLedger/Text/Blank.lean
  =========================
  **White space, as the character database has it.**

  A text counts as blank when nothing is left of it after the white space at
  both ends is taken away, that is, when all of it is white space.
-/
namespace DidLedger.Text.Blank

/-- The code points of white space, as ranges with both ends included. -/
def spaceRanges : List (Nat × Nat) :=
  [(0x9, 0xD), (0x20, 0x20), (0x85, 0x85), (0xA0, 0xA0), (0x1680, 0x1680), (0x2000, 0x200A),
   (0x2028, 0x2029), (0x202F, 0x202F), (0x205F, 0x205F), (0x3000, 0x3000)]

def isSpace (c : Char) : Bool :=
  spaceRanges.any fun r => decide (r.1 ≤ c.toNat) && decide (c.toNat ≤ r.2)

/-- Whether nothing is left of the text once its ends are trimmed. -/
def isBlank (s : String) : Bool :=
  s.toList.all isSpace

end DidLedger.Text.Blank
