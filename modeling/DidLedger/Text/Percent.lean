/-
  DidLedger/Text/Percent.lean
  ===========================
  **Percent coding of path segments.**

  `encode` leaves the unreserved characters of a URL alone (letters, digits and
  `-`, `.`, `_`, `~`) and writes every other octet of the text as `%XX`, so the
  result is one path segment whatever the text holds.

  Two readers undo it.  `decode?` wants the octets to be UTF-8 again; both leave
  a `%` that two hexadecimal digits do not follow as it is.
-/
import DidLedger.Text.Hex
import DidLedger.Text.Utf8

namespace DidLedger.Text.Percent

/-! ### Writing -/

/-- The octets of characters that need no escape anywhere in a URL. -/
def isUnreserved (b : UInt8) : Bool :=
  let n := b.toNat
  decide (0x30 ≤ n ∧ n ≤ 0x39) || decide (0x41 ≤ n ∧ n ≤ 0x5A) || decide (0x61 ≤ n ∧ n ≤ 0x7A)
    || n == 0x2D || n == 0x2E || n == 0x5F || n == 0x7E

def escape (b : UInt8) : List Char :=
  ['%', Hex.upper (b.toNat / 16), Hex.upper (b.toNat % 16)]

/-- An octet as it is written in a segment. -/
def encodeByte (b : UInt8) : List Char :=
  if isUnreserved b then [Char.ofNat b.toNat] else escape b

/-- The octets of a text, written with unreserved characters and escapes. -/
def encodeBytes (bytes : List UInt8) : List Char :=
  bytes.flatMap encodeByte

/-- A text as a single path segment. -/
def encode (s : String) : String :=
  String.ofList (encodeBytes (Utf8.encode s))

/-! ### Reading -/

/-- The octets of a segment, with the escapes undone. -/
def decodeChars : List Char → List UInt8
  | [] => []
  | '%' :: a :: b :: rest =>
    match Hex.digit? a, Hex.digit? b with
    | some high, some low => UInt8.ofNat (high * 16 + low) :: decodeChars rest
    | _, _ => String.utf8EncodeChar '%' ++ decodeChars (a :: b :: rest)
  | c :: rest => String.utf8EncodeChar c ++ decodeChars rest

def decodeBytes (s : String) : List UInt8 :=
  decodeChars s.toList

/-- The text that a segment stands for, if its octets are UTF-8. -/
def decode? (s : String) : Except Utf8.Fault String :=
  Utf8.decode? (decodeBytes s)

end DidLedger.Text.Percent
