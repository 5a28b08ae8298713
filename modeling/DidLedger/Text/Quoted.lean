/-
  DidLedger/Text/Quoted.lean
  ==========================
  **Texts as messages quote them.**

  A message that names an offending text puts it between quotation marks and
  escapes what would make it unreadable: the quotation mark, the backslash, the
  common controls by letter, and every other character without a mark of its
  own by its number in braces.
-/
import DidLedger.Text.Hex
import DidLedger.Text.Printable

namespace DidLedger.Text.Quoted

/-- The lower-case hexadecimal digits of a number, without leading zeros. -/
def hexDigits (n : Nat) : List Char :=
  Nat.toDigits 16 n

def escape (c : Char) : List Char :=
  if c = '\x00' then ['\\', '0']
  else if c = '\t' then ['\\', 't']
  else if c = '\n' then ['\\', 'n']
  else if c = '\r' then ['\\', 'r']
  else if c = '"' then ['\\', '"']
  else if c = '\\' then ['\\', '\\']
  else if Printable.isPrintable c then [c]
  else ['\\', 'u', '{'] ++ hexDigits c.toNat ++ ['}']

def quote (s : String) : String :=
  String.ofList ('"' :: s.toList.flatMap escape ++ ['"'])

end DidLedger.Text.Quoted
