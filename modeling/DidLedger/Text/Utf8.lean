/-
  DidLedger/Text/Utf8.lean
  ========================
  **UTF-8, read strictly or with replacement.**

  Octets are cut into pieces by one pass over the list: a piece is a character,
  a run of octets that no character can continue, or a character that the end
  of the input cuts off.  A run is as long as it can be while still beginning
  some character, so two readers that differ in what they do with a bad run
  agree on where it ends:

    * `decode?` stops at the first bad run and says where it is;
    * `decodeLossy` puts one replacement character in place of each.

  The pass is a machine that keeps, between octets, the range in which the next
  octet has to lie.  Only the octet after the first has a range narrower than
  80..BF, which is how overlong forms, surrogates and values above 10FFFF are
  kept out.
-/
namespace DidLedger.Text.Utf8

/-! ### Writing -/

def encode (s : String) : List UInt8 :=
  s.toList.flatMap String.utf8EncodeChar

/-! ### Cutting octets into pieces -/

/-- A part of the octets of a text. -/
inductive Piece where
  | scalar (c : Char)
  /-- A run of `length` octets that no further octet can make a character. -/
  | invalid (length : Nat)
  /-- The first `length` octets of a character that the input does not finish. -/
  | cutOff (length : Nat)
deriving DecidableEq, Repr

/-- A character of which some octets are read. -/
structure Pending where
  owed : Nat
  /-- The least octet that may come next. -/
  low : UInt8
  /-- The greatest octet that may come next. -/
  high : UInt8
  bits : Nat
  taken : Nat
deriving DecidableEq, Repr

/-- What the first octet of a character says. -/
inductive Opening where
  /-- It is a piece of its own. -/
  | done (piece : Piece)
  | more (pending : Pending)
deriving DecidableEq, Repr

/-- Reads the first octet of a character. -/
def opening (b : UInt8) : Opening :=
  let n := b.toNat
  if n < 0x80 then .done (.scalar (Char.ofNat n))
  else if n < 0xC2 then .done (.invalid 1)
  else if n < 0xE0 then .more ⟨1, 0x80, 0xBF, n - 0xC0, 1⟩
  else if n = 0xE0 then .more ⟨2, 0xA0, 0xBF, 0, 1⟩
  else if n = 0xED then .more ⟨2, 0x80, 0x9F, n - 0xE0, 1⟩
  else if n < 0xF0 then .more ⟨2, 0x80, 0xBF, n - 0xE0, 1⟩
  else if n = 0xF0 then .more ⟨3, 0x90, 0xBF, 0, 1⟩
  else if n < 0xF4 then .more ⟨3, 0x80, 0xBF, n - 0xF0, 1⟩
  else if n = 0xF4 then .more ⟨3, 0x80, 0x8F, n - 0xF0, 1⟩
  else .done (.invalid 1)

/-- The bits of a character after the continuation octet `b`. -/
def Pending.extend (p : Pending) (b : UInt8) : Nat :=
  p.bits * 0x40 + (b.toNat - 0x80)

/-- Cuts octets into pieces, `pending` being the character under way. -/
def piecesFrom : Option Pending → List UInt8 → List Piece
  | none, [] => []
  | some p, [] => [.cutOff p.taken]
  | none, b :: bs =>
    match opening b with
    | .done piece => piece :: piecesFrom none bs
    | .more p => piecesFrom (some p) bs
  | some p, b :: bs =>
    if p.low ≤ b ∧ b ≤ p.high then
      if p.owed = 1 then .scalar (Char.ofNat (p.extend b)) :: piecesFrom none bs
      else piecesFrom (some ⟨p.owed - 1, 0x80, 0xBF, p.extend b, p.taken + 1⟩) bs
    else
      .invalid p.taken ::
        match opening b with
        | .done piece => piece :: piecesFrom none bs
        | .more q => piecesFrom (some q) bs

/-- The pieces of a list of octets, in order. -/
def pieces (bs : List UInt8) : List Piece :=
  piecesFrom none bs

/-! ### The strict reader -/

/-- Why octets are not the UTF-8 form of a text, and from which octet on. -/
inductive Fault where
  /-- A run of `length` octets belongs to no character. -/
  | invalid (length index : Nat)
  | incomplete (index : Nat)
deriving DecidableEq, Repr

def Fault.message : Fault → String
  | .invalid length index => s!"invalid utf-8 sequence of {length} bytes from index {index}"
  | .incomplete index => s!"incomplete utf-8 byte sequence from index {index}"

/-- The characters of pieces that begin at the octet `index`. -/
def scalars? (index : Nat) : List Piece → Except Fault (List Char)
  | [] => .ok []
  | .scalar c :: ps => (scalars? (index + c.utf8Size) ps).map (c :: ·)
  | .invalid length :: _ => .error (.invalid length index)
  | .cutOff _ :: _ => .error (.incomplete index)

/-- The text whose octets are `bs`, or the first fault. -/
def decode? (bs : List UInt8) : Except Fault String :=
  (scalars? 0 (pieces bs)).map String.ofList

/-! ### The lenient reader -/

/-- The mark that stands for octets that are no character. -/
def replacement : Char := '\uFFFD'

/-- The character shown for a piece. -/
def Piece.shown : Piece → Char
  | .scalar c => c
  | .invalid _ => replacement
  | .cutOff _ => replacement

/-- The text of octets, with a replacement character for each bad run. -/
def decodeLossy (bs : List UInt8) : String :=
  String.ofList ((pieces bs).map Piece.shown)

end DidLedger.Text.Utf8
