/-
  DidLedger/Json/Written.lean
  ===========================
  **JSON as it was written.**

  The tree of a text says more than its value: it keeps members in the order in
  which they were written, repeated ones included, and it has a place for parts
  that follow the grammar but stand for no value.  Such a part is a number that
  is not finite, a string with half of a surrogate pair, or an array or object
  nested too deep.  A reader that skips a member never looks at its parts, so a
  text may be acceptable to it although it has no value.

  A value is a tree as well, so one reader serves both.
-/
import DidLedger.Json.Value

namespace DidLedger.Json

inductive Written where
  | null
  | bool (value : Bool)
  | number (value : Number)
  | string (value : String)
  | array (elements : List Written)
  /-- The members in the order of the text; a key without value is unreadable. -/
  | object (members : List (Option String × Written))
  /-- A part that stands for no value. -/
  | unreadable
deriving Repr, Inhabited

namespace Written

mutual

/-- The value of a tree, none if some part has none; of members with one key
    the last counts. -/
def value? : Written → Option Json
  | .null => some .null
  | .bool b => some (.bool b)
  | .number n => some (.number n)
  | .string s => some (.string s)
  | .array elements => (elementValues? elements).map .array
  | .object members => (memberValues? members).map Json.ofMembers
  | .unreadable => none

def elementValues? : List Written → Option (List Json)
  | [] => some []
  | e :: es =>
    match e.value?, elementValues? es with
    | some v, some vs => some (v :: vs)
    | _, _ => none

def memberValues? : List (Option String × Written) → Option (List (String × Json))
  | [] => some []
  | (key, w) :: ms =>
    match key, w.value?, memberValues? ms with
    | some k, some v, some vs => some ((k, v) :: vs)
    | _, _, _ => none

end

mutual

def ofJson : Json → Written
  | .null => .null
  | .bool b => .bool b
  | .number n => .number n
  | .string s => .string s
  | .array elements => .array (ofElements elements)
  | .object members => .object (ofMembers members)

def ofElements : List Json → List Written
  | [] => []
  | e :: es => ofJson e :: ofElements es

def ofMembers : List (String × Json) → List (Option String × Written)
  | [] => []
  | (k, v) :: ms => (some k, ofJson v) :: ofMembers ms

end

end Written
end DidLedger.Json
