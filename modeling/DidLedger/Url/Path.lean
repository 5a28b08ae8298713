/-
  DidLedger/Url/Path.lean
  =======================
  **Paths and queries of URLs.**

  A path is cut into segments.  A segment of one dot is dropped and a segment of
  two dots takes the segment before it away, also when the dots are escaped; at
  the end of a path either leaves an empty segment behind.  What may not stand
  in a path is escaped, and what is escaped already stays as it is.
-/
import DidLedger.Text.Percent
import DidLedger.Text.Split

namespace DidLedger.Url

open DidLedger.Text

/-! ### Escapes -/

/-- The octets that are escaped everywhere: controls, the blank, and what is not
    ASCII. -/
def isAlwaysEscaped (b : UInt8) : Bool :=
  decide (b.toNat ≤ 0x20) || decide (0x7F ≤ b.toNat)

/-- The octets that are escaped in a path. -/
def isEscapedInPath (b : UInt8) : Bool :=
  isAlwaysEscaped b || "\"#<>?`\x7b\x7d".toList.contains (Char.ofNat b.toNat)

/-- The octets that are escaped in the query of a web address. -/
def isEscapedInQuery (b : UInt8) : Bool :=
  isAlwaysEscaped b || "\"#<>'".toList.contains (Char.ofNat b.toNat)

/-- A text with the escapes of a class of octets. -/
def escapeWith (isEscaped : UInt8 → Bool) (cs : List Char) : List Char :=
  (cs.flatMap String.utf8EncodeChar).flatMap fun b =>
    if isEscaped b then Percent.escape b else [Char.ofNat b.toNat]

/-! ### Segments -/

/-- The dots that a segment consists of, as far as it does. -/
def dots? : List Char → Option Nat
  | [] => some 0
  | '.' :: rest => (dots? rest).map (· + 1)
  | '%' :: '2' :: 'e' :: rest => (dots? rest).map (· + 1)
  | '%' :: '2' :: 'E' :: rest => (dots? rest).map (· + 1)
  | _ => none

/-- Whether a segment stands for the place it is in. -/
def isSingleDot (segment : List Char) : Bool := dots? segment == some 1

/-- Whether a segment stands for the place above. -/
def isDoubleDot (segment : List Char) : Bool := dots? segment == some 2

/-- The segments that are left of `segments` after those of `done`, which has
    its last segment first. -/
def resolveDots : List (List Char) → List (List Char) → List (List Char)
  | done, [] => done.reverse
  | done, segment :: rest =>
    if isDoubleDot segment then
      if rest.isEmpty then ([] :: done.tail).reverse else resolveDots done.tail rest
    else if isSingleDot segment then
      if rest.isEmpty then ([] :: done).reverse else resolveDots done rest
    else resolveDots (escapeWith isEscapedInPath segment :: done) rest

/-- What separates segments; in web addresses a backslash does so too. -/
def isSlash (web : Bool) (c : Char) : Bool :=
  c == '/' || (web && c == '\\')

def joinSegments (segments : List (List Char)) : List Char :=
  segments.flatMap fun segment => '/' :: segment

/-- A path as it is sent. -/
def normalizePath (web : Bool) (cs : List Char) : List Char :=
  let rest := match cs with
    | c :: rest => if isSlash web c then rest else c :: rest
    | [] => []
  joinSegments (resolveDots [] (Split.atEvery (isSlash web) rest))

/-- A query as it is sent. -/
def normalizeQuery (cs : List Char) : List Char :=
  escapeWith isEscapedInQuery cs

end DidLedger.Url
