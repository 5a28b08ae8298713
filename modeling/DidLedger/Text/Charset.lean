/-
  DidLedger/Text/Charset.lean
  ===========================
  **Octets read as the text that they are said to be.**

  A byte order mark at the front of octets tells their encoding, whatever else is
  said of them, and does not belong to the text.  Without a mark the encoding is
  the one that a label names, and UTF-8 if there is no label or it names none.

  Labels are those of the encoding standard, without the blanks around them and in
  either case.  The encodings of Unicode are read here.  Those that are older take
  tables of their own, so their readers are given by a function (`Legacy`).
-/
import DidLedger.Text.Utf16
import DidLedger.Text.Utf8

namespace DidLedger.Text

/-- An encoding that holds all of Unicode. -/
inductive Encoding where
  | utf8
  | utf16 (order : Utf16.ByteOrder)
deriving DecidableEq, Repr

/-- The reader of an older encoding, by its label. -/
abbrev Legacy := String → Option (List UInt8 → String)

namespace Encoding

/-- The text of octets; what is no character is replaced. -/
def decode : Encoding → List UInt8 → String
  | .utf8 => Utf8.decodeLossy
  | .utf16 order => Utf16.decodeLossy order

/-- The encoding that a mark at the front of octets tells, and what follows it. -/
def ofMark? : List UInt8 → Option (Encoding × List UInt8)
  | 0xEF :: 0xBB :: 0xBF :: rest => some (.utf8, rest)
  | 0xFE :: 0xFF :: rest => some (.utf16 .big, rest)
  | 0xFF :: 0xFE :: rest => some (.utf16 .little, rest)
  | _ => none

def all : List Encoding := [.utf8, .utf16 .big, .utf16 .little]

/-- The labels of an encoding. -/
def labels : Encoding → List String
  | .utf8 =>
    ["unicode-1-1-utf-8", "unicode11utf8", "unicode20utf8", "utf-8", "utf8", "x-unicode20utf8"]
  | .utf16 .big => ["unicodefffe", "utf-16be"]
  | .utf16 .little =>
    ["csunicode", "iso-10646-ucs-2", "ucs-2", "unicode", "unicodefeff", "utf-16", "utf-16le"]

/-- The blanks that do not count around a label. -/
def isLabelBlank (c : Char) : Bool :=
  c == '\t' || c == '\n' || c == '\x0c' || c == '\r' || c == ' '

/-- A label as the standard lists it. -/
def plainLabel (label : String) : String :=
  String.ofList ((((label.toList.dropWhile isLabelBlank).reverse.dropWhile
    isLabelBlank).reverse).map Char.toLower)

/-- The encoding of Unicode that a label names, if it names one. -/
def ofLabel? (label : String) : Option Encoding :=
  all.find? fun encoding => encoding.labels.contains (plainLabel label)

end Encoding

/-- The reader of octets that no mark begins, by their label if they have one. -/
def readerOf (legacy : Legacy) : Option String → List UInt8 → String
  | none => Utf8.decodeLossy
  | some label =>
    match Encoding.ofLabel? label with
    | some encoding => encoding.decode
    | none => (legacy (Encoding.plainLabel label)).getD Utf8.decodeLossy

/-- The text of octets that are said to be of a character set. -/
def decodeAs (legacy : Legacy) (charset : Option String) (bytes : List UInt8) : String :=
  match Encoding.ofMark? bytes with
  | some (encoding, rest) => encoding.decode rest
  | none => readerOf legacy charset bytes

end DidLedger.Text
