/-
  DidLedger/Json/Parser.lean
  ==========================
  **Reading JSON text.**

  The parser follows the grammar and builds the tree of the text; it fails only
  where the grammar is broken.  Parts that follow the grammar but stand for no
  value become `Written.unreadable`, and whether that matters is for the reader
  of the tree to say.  `parse?` is the reader for which everything matters: it
  gives the value of a text all of whose parts have one.

  The fuel of the three mutual functions is computed from the length of the
  text.  Opening an array or object costs two steps and one character, going on
  to the next element one step and at least two characters, so twice the length
  is always enough.
-/
import DidLedger.Json.Written
import DidLedger.Text.Hex

namespace DidLedger.Json.Parser

open DidLedger.Text

/-- The most arrays and objects that may stand inside each other. -/
def maxDepth : Nat := 127

/-! ### Tokens -/

/-- The blanks that may stand between tokens. -/
def isBlank (c : Char) : Bool :=
  c == ' ' || c == '\t' || c == '\n' || c == '\r'

/-- The text after the blanks at its front. -/
def skipBlanks (cs : List Char) : List Char :=
  cs.dropWhile isBlank

/-- The value of four hexadecimal digits. -/
def hex4? (a b c d : Char) : Option Nat := do
  return (((← Hex.digit? a) * 16 + (← Hex.digit? b)) * 16 + (← Hex.digit? c)) * 16 + (← Hex.digit? d)

/-- The character after a backslash that stands for one character. -/
def simpleEscape? (c : Char) : Option Char :=
  if c = '"' then some '"'
  else if c = '\\' then some '\\'
  else if c = '/' then some '/'
  else if c = 'b' then some '\x08'
  else if c = 'f' then some '\x0c'
  else if c = 'n' then some '\n'
  else if c = 'r' then some '\r'
  else if c = 't' then some '\t'
  else none

/-- What the reader of a string has behind it. -/
structure StringState where
  seen : List Char
  /-- The first half of a surrogate pair that was just read. -/
  high : Option Nat
  /-- Whether half of a surrogate pair stood alone. -/
  broken : Bool

namespace StringState

/-- The state at the start of a string. -/
def start : StringState := ⟨[], none, false⟩

/-- The state after a character that is not written as a code unit. -/
def push (s : StringState) (c : Char) : StringState :=
  ⟨c :: s.seen, none, s.broken || s.high.isSome⟩

/-- The state after an escaped code unit. -/
def pushUnit (s : StringState) (unit : Nat) : StringState :=
  if 0xD800 ≤ unit ∧ unit < 0xDC00 then ⟨s.seen, some unit, s.broken || s.high.isSome⟩
  else if 0xDC00 ≤ unit ∧ unit < 0xE000 then
    match s.high with
    | some high =>
      ⟨Char.ofNat (0x10000 + (high - 0xD800) * 0x400 + (unit - 0xDC00)) :: s.seen, none, s.broken⟩
    | none => ⟨s.seen, none, true⟩
  else s.push (Char.ofNat unit)

/-- The text of a finished string, none if it is broken. -/
def text? (s : StringState) : Option String :=
  if s.broken || s.high.isSome then none else some (String.ofList s.seen.reverse)

end StringState

/-- Reads a string to its closing quotation mark. -/
def stringTail (state : StringState) : List Char → Option (Option String × List Char)
  | [] => none
  | '"' :: rest => some (state.text?, rest)
  | '\\' :: 'u' :: a :: b :: c :: d :: rest =>
    match hex4? a b c d with
    | some unit => stringTail (state.pushUnit unit) rest
    | none => none
  | '\\' :: c :: rest =>
    match simpleEscape? c with
    | some e => stringTail (state.push e) rest
    | none => none
  | c :: rest => if c = '\\' ∨ c.toNat < 0x20 then none else stringTail (state.push c) rest

/-- Takes digits off the front, at least one. -/
def digits? (cs : List Char) : Option (List Char × List Char) :=
  let ds := cs.takeWhile Char.isDigit
  if ds.isEmpty then none else some (ds, cs.dropWhile Char.isDigit)

/-- The digits before the point: a lone zero, or digits that begin with none. -/
def whole? : List Char → Option (List Char × List Char)
  | '0' :: rest => some (['0'], rest)
  | cs => digits? cs

/-- The digits after the point, if there is a point. -/
def fraction? : List Char → Option (List Char × List Char)
  | '.' :: rest => digits? rest
  | cs => some ([], cs)

/-- The exponent, if there is one. -/
def exponent? : List Char → Option (Option Int × List Char)
  | c :: rest =>
    if c = 'e' ∨ c = 'E' then
      match rest with
      | '+' :: rest => (digits? rest).map fun (ds, r) => (some (Nat.ofDigitChars 10 ds 0 : Int), r)
      | '-' :: rest => (digits? rest).map fun (ds, r) => (some (-(Nat.ofDigitChars 10 ds 0 : Int)), r)
      | rest => (digits? rest).map fun (ds, r) => (some (Nat.ofDigitChars 10 ds 0 : Int), r)
    else some (none, c :: rest)
  | [] => some (none, [])

/-- Reads a numeral without its sign. -/
def unsigned? (negative : Bool) (cs : List Char) : Option (Numeral × List Char) := do
  let (whole, cs) ← whole? cs
  let (fraction, cs) ← fraction? cs
  let (exponent, cs) ← exponent? cs
  return (⟨negative, whole, fraction, exponent⟩, cs)

def numeral? : List Char → Option (Numeral × List Char)
  | '-' :: rest => unsigned? true rest
  | cs => unsigned? false cs

/-! ### Values -/

/-- A part of the tree, if it has one. -/
def part (w : Option Written) : Written := w.getD .unreadable

mutual

/-- Reads a value under which `depth` more levels may be nested. -/
def value? : Nat → Nat → List Char → Option (Written × List Char)
  | 0, _, _ => none
  | fuel + 1, depth, cs =>
    match skipBlanks cs with
    | 'n' :: 'u' :: 'l' :: 'l' :: rest => some (.null, rest)
    | 't' :: 'r' :: 'u' :: 'e' :: rest => some (.bool true, rest)
    | 'f' :: 'a' :: 'l' :: 's' :: 'e' :: rest => some (.bool false, rest)
    | '"' :: rest => (stringTail .start rest).map fun (s, r) => (part (s.map .string), r)
    | '[' :: rest =>
      match skipBlanks rest with
      | ']' :: r => some (if depth = 0 then .unreadable else .array [], r)
      | r => (elements? fuel (depth - 1) r).map fun (es, r) =>
          (if depth = 0 then .unreadable else .array es, r)
    | '{' :: rest =>
      match skipBlanks rest with
      | '}' :: r => some (if depth = 0 then .unreadable else .object [], r)
      | r => (members? fuel (depth - 1) r).map fun (ms, r) =>
          (if depth = 0 then .unreadable else .object ms, r)
    | cs => (numeral? cs).map fun (n, r) => (part (n.value?.map .number), r)

/-- Reads elements to the end of their array. -/
def elements? : Nat → Nat → List Char → Option (List Written × List Char)
  | 0, _, _ => none
  | fuel + 1, depth, cs =>
    match value? fuel depth cs with
    | none => none
    | some (w, rest) =>
      match skipBlanks rest with
      | ',' :: r => (elements? fuel depth r).map fun (ws, r) => (w :: ws, r)
      | ']' :: r => some ([w], r)
      | _ => none

/-- Reads members to the end of their object. -/
def members? : Nat → Nat → List Char → Option (List (Option String × Written) × List Char)
  | 0, _, _ => none
  | fuel + 1, depth, cs =>
    match skipBlanks cs with
    | '"' :: rest =>
      match stringTail .start rest with
      | none => none
      | some (key, rest) =>
        match skipBlanks rest with
        | ':' :: rest =>
          match value? fuel depth rest with
          | none => none
          | some (w, rest) =>
            match skipBlanks rest with
            | ',' :: r => (members? fuel depth r).map fun (ms, r) => ((key, w) :: ms, r)
            | '}' :: r => some ([(key, w)], r)
            | _ => none
        | _ => none
    | _ => none

end

def tree? (s : String) : Option Written :=
  let cs := s.toList
  match value? (2 * cs.length + 2) maxDepth cs with
  | some (w, rest) => if (skipBlanks rest).isEmpty then some w else none
  | none => none

end Parser

def parse? (s : String) : Option Json :=
  (Parser.tree? s).bind Written.value?

end DidLedger.Json
