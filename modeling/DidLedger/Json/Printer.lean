/-
  DidLedger/Json/Printer.lean
  ===========================
  **JSON as compact text.**

  No blank is written between tokens.  Inside a string only the quotation mark,
  the backslash and the controls below U+0020 are escaped, five of them by
  letter and the others by number; every other character stands for itself.
-/
import DidLedger.Json.Value
import DidLedger.Text.Hex

namespace DidLedger.Json

open DidLedger.Text

def escape (c : Char) : List Char :=
  if c = '"' then ['\\', '"']
  else if c = '\\' then ['\\', '\\']
  else if c = '\x08' then ['\\', 'b']
  else if c = '\x0c' then ['\\', 'f']
  else if c = '\n' then ['\\', 'n']
  else if c = '\r' then ['\\', 'r']
  else if c = '\t' then ['\\', 't']
  else if c.toNat < 0x20 then
    ['\\', 'u', '0', '0', Hex.lower (c.toNat / 16), Hex.lower (c.toNat % 16)]
  else [c]

/-- A text as a string literal. -/
def quoted (s : String) : List Char :=
  '"' :: s.toList.flatMap escape ++ ['"']

mutual

def chars : Json → List Char
  | .null => ['n', 'u', 'l', 'l']
  | .bool true => ['t', 'r', 'u', 'e']
  | .bool false => ['f', 'a', 'l', 's', 'e']
  | .number n => n.chars
  | .string s => quoted s
  | .array [] => ['[', ']']
  | .array (e :: es) => '[' :: e.chars ++ moreElements es
  | .object [] => ['{', '}']
  | .object ((k, v) :: ms) => '{' :: quoted k ++ ':' :: v.chars ++ moreMembers ms

/-- The characters after an element, to the end of its array. -/
def moreElements : List Json → List Char
  | [] => [']']
  | e :: es => ',' :: e.chars ++ moreElements es

/-- The characters after a member, to the end of its object. -/
def moreMembers : List (String × Json) → List Char
  | [] => ['}']
  | (k, v) :: ms => ',' :: quoted k ++ ':' :: v.chars ++ moreMembers ms

end

def render (j : Json) : String :=
  String.ofList j.chars

end DidLedger.Json
