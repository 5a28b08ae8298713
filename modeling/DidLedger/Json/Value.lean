/-
  DidLedger/Json/Value.lean
  =========================
  **JSON values.**

  An object is a list of members.  A value that the program receives or stores
  keeps its members in ascending order of their keys, each key once; the
  members that a record is written with stand in the order of its fields.
  `sorted` takes the second form to the first.
-/
import DidLedger.Json.Number

namespace DidLedger

inductive Json where
  | null
  | bool (value : Bool)
  | number (value : Json.Number)
  | string (value : String)
  | array (elements : List Json)
  | object (members : List (String × Json))
deriving Repr, Inhabited

namespace Json

/-! ### Members in order -/

variable {α : Type}

/-- Puts a member at its place by key; one with the same key is replaced. -/
def insertMember (key : String) (value : α) : List (String × α) → List (String × α)
  | [] => [(key, value)]
  | (k, v) :: rest =>
    if key < k then (key, value) :: (k, v) :: rest
    else if key = k then (key, value) :: rest
    else (k, v) :: insertMember key value rest

/-- The members in ascending order of keys; of several with one key the last
    stays. -/
def sortMembers (members : List (String × α)) : List (String × α) :=
  members.foldl (fun sorted m => insertMember m.1 m.2 sorted) []

/-- An object with the given members, put in order. -/
def ofMembers (members : List (String × Json)) : Json :=
  .object (sortMembers members)

mutual

/-- The value with the members of every object in order. -/
def sorted : Json → Json
  | .null => .null
  | .bool b => .bool b
  | .number n => .number n
  | .string s => .string s
  | .array elements => .array (sortedElements elements)
  | .object members => .object (sortMembers (sortedMembers members))

def sortedElements : List Json → List Json
  | [] => []
  | e :: es => e.sorted :: sortedElements es

/-- The members in their places, each value sorted. -/
def sortedMembers : List (String × Json) → List (String × Json)
  | [] => []
  | (k, v) :: ms => (k, v.sorted) :: sortedMembers ms

end

/-! ### Looking inside -/

/-- The member of an object under a key; `null` if there is none, and for a
    value that is no object. -/
def member (key : String) : Json → Json
  | .object members => (members.lookup key).getD .null
  | _ => .null

def text? : Json → Option String
  | .string s => some s
  | _ => none

def ofNat (n : Nat) : Json := .number (.integer n)

end Json
end DidLedger
