/-
  DidLedger/Shape/Misfit.lean
  ===========================
  **Why a JSON tree does not fit the shape of a type.**

  Each constructor is one cause; `Misfit.message` is the wording.  A part of a
  text that stands for no value is a cause as well (`unreadable`), but it has no
  wording of its own: a text with such a part is reported as no JSON at all.
-/
import DidLedger.Json.Written
import DidLedger.Text.Quoted

namespace DidLedger

open DidLedger.Text DidLedger.Decimal

/-- The kind of value met where another was expected. -/
inductive Found where
  | null
  | bool (value : Bool)
  | integer (value : Int)
  | real (value : Binary64)
  | string (value : String)
  | sequence
  | map
deriving DecidableEq, Repr

/-- A name as a message quotes it. -/
def quoteName (name : String) : String := s!"`{name}`"

/-- A value as a message names it. -/
def Found.describe : Found → String
  | .null => "null"
  | .bool true => "boolean `true`"
  | .bool false => "boolean `false`"
  | .integer value => "integer " ++ quoteName (String.ofList (Json.renderInteger value))
  | .real value => "floating point " ++ quoteName (String.ofList (value.render Json.Number.layout))
  | .string value => "string " ++ Quoted.quote value
  | .sequence => "sequence"
  | .map => "map"

/-- Why a tree does not fit a shape. -/
inductive Misfit where
  | wrongType (found : Found) (expected : String)
  | outOfRange (value : Int) (expected : String)
  /-- A field that the object does not have. -/
  | missingField (name : String)
  /-- A field that the object has twice. -/
  | repeatedField (name : String)
  /-- A name that is none of the known ones. -/
  | unknownVariant (name : String) (known : List String)
  /-- An array that ends before the field at `index`, of a record of `size` fields. -/
  | tooShort (index : Nat) (record : String) (size : Nat)
  /-- An array of `length` elements, more than the record has fields. -/
  | tooLong (length : Nat)
  /-- Elements of an array after the last field of the record. -/
  | trailing
  /-- An object in place of a name that has not exactly one member. -/
  | notSingle
  /-- Something that cannot stand for a name. -/
  | noName
  /-- A part of a text that stands for no value. -/
  | unreadable
deriving DecidableEq, Repr

/-- What may stand in place of an unknown name. -/
def alternatives : List String → String
  | [] => "there are no variants"
  | [a] => "expected " ++ quoteName a
  | [a, b] => "expected " ++ quoteName a ++ " or " ++ quoteName b
  | names => "expected one of " ++ String.intercalate ", " (names.map quoteName)

/-- A count of elements in words. -/
def countElements (n : Nat) : String :=
  if n = 1 then "1 element" else s!"{n} elements"

def Misfit.message : Misfit → String
  | .wrongType found expected => s!"invalid type: {found.describe}, expected {expected}"
  | .outOfRange value expected =>
    s!"invalid value: {(Found.integer value).describe}, expected {expected}"
  | .missingField name => "missing field " ++ quoteName name
  | .repeatedField name => "duplicate field " ++ quoteName name
  | .unknownVariant name known => "unknown variant " ++ quoteName name ++ ", " ++ alternatives known
  | .tooShort index record size =>
    s!"invalid length {index}, expected struct {record} with {countElements size}"
  | .tooLong length => s!"invalid length {length}, expected fewer elements in array"
  | .trailing => "trailing characters"
  | .notSingle => "invalid value: map, expected map with a single key"
  | .noName => "expected value"
  | .unreadable => ""

/-- The misfit of a tree where `expected` should stand. -/
def Json.Written.misfit (expected : String) : Json.Written → Misfit
  | .null => .wrongType .null expected
  | .bool b => .wrongType (.bool b) expected
  | .number (.integer n) => .wrongType (.integer n) expected
  | .number (.real x) => .wrongType (.real x) expected
  | .string s => .wrongType (.string s) expected
  | .array _ => .wrongType .sequence expected
  | .object _ => .wrongType .map expected
  | .unreadable => .unreadable

end DidLedger
