/-
  DidLedger/Shape/Reader.lean
  ===========================
  **Reading a JSON tree by a shape.**

  The first misfit met is the one reported.  An object is read member by member
  in the order in which it has them; members that belong to no field are passed
  over without a look at their parts, and only after the last member is a
  missing field noticed, in the order of the fields.  An array is read field by
  field.

  Values and texts are read by the same rules but for two points, which `Source`
  tells apart: what is said of an array with too many elements, and what may
  stand for a name in place of a string.
-/
import DidLedger.Json.Parser
import DidLedger.Shape.Basic
import DidLedger.Shape.Misfit

namespace DidLedger

open DidLedger.Json (Written)

inductive Source where
  /-- It is the tree of a value. -/
  | value
  /-- It is the tree of a text. -/
  | text
deriving DecidableEq, Repr

/-! ### Parts without fields -/

/-- Reads a natural number below `limit`. -/
def readWord (limit : Nat) (expected : String) : Written → Except Misfit Nat
  | .number (.integer n) =>
    if 0 ≤ n ∧ n < limit then .ok n.toNat else .error (.outOfRange n expected)
  | w => .error (w.misfit expected)

def readAny (w : Written) : Except Misfit Json :=
  match w.value? with
  | some j => .ok j
  | none => .error .unreadable

def readDictionary : Written → Except Misfit (List (String × Json))
  | .object members =>
    match Written.memberValues? members with
    | some ms => .ok (Json.sortMembers ms)
    | none => .error .unreadable
  | w => .error (w.misfit "a map")

def pick {α : Type} (variants : List (String × α)) (name : String) : Except Misfit α :=
  match variants.lookup name with
  | some a => .ok a
  | none => .error (.unknownVariant name (variants.map Prod.fst))

/-- The variant of a name whose content has to be empty. -/
def pickEmpty {α : Type} (variants : List (String × α)) (key : Option String) (content : Written) :
    Except Misfit α :=
  match key with
  | none => .error .unreadable
  | some name => do
    let a ← pick variants name
    match content with
    | .null => return a
    | w => .error (w.misfit "unit")

/-- Reads a name: a string, or an object whose only member has the name as key
    and `null` as value. -/
def readChoice {α : Type} (variants : List (String × α)) : Source → Written → Except Misfit α
  | _, .string name => pick variants name
  | _, .unreadable => .error .unreadable
  | _, .object [(key, content)] => pickEmpty variants key content
  | .value, .object _ => .error .notSingle
  | .value, w => .error (w.misfit "string or map")
  | .text, .object ((key, content) :: _) => do
    let _ ← pickEmpty variants key content
    .error .noName
  | .text, _ => .error .noName

/-! ### Records -/

def Fields.vacant : {types : List Type} → Fields types → Row (types.map Option)
  | _, .nil => ()
  | _, .cons _ _ rest => (none, rest.vacant)

/-- The record of the fields that were read, the others absent. -/
def Fields.settle : {types : List Type} → Fields types → Row (types.map Option) →
    Except Misfit (Row types)
  | _, .nil, _ => .ok ()
  | _, .cons field _ rest, (slot, slots) =>
    match slot <|> field.absent? with
    | none => .error (.missingField field.name)
    | some a => (rest.settle slots).map fun row => (a, row)

/-- What becomes of the elements after the last field. -/
def surplus (source : Source) (length : Nat) (rest : List Written) : Except Misfit Unit :=
  if rest.isEmpty then .ok ()
  else match source with
    | .value => .error (.tooLong length)
    | .text => .error .trailing

mutual

def Shape.read (source : Source) : {α : Type} → Shape α → Written → Except Misfit α
  | _, .string, w =>
    match w with
    | .string s => .ok s
    | w => .error (w.misfit "a string")
  | _, .word16, w => (readWord UInt16.size "u16" w).map UInt16.ofNat
  | _, .word64, w => (readWord UInt64.size "u64" w).map UInt64.ofNat
  | _, .json, w => readAny w
  | _, .dictionary, w => readDictionary w
  | _, .optional inner, w =>
    match w with
    | .null => .ok none
    | w => (inner.read source w).map some
  | _, .sequence inner, w =>
    match w with
    | .array elements => elements.mapM fun e => inner.read source e
    | w => .error (w.misfit "a sequence")
  | _, .choice variants _ _, w => readChoice variants source w
  | _, .record name fields pack _ _, w =>
    match w with
    | .object members => do
      let slots ← members.foldlM
        (fun slots (member : Option String × Written) => fields.visit source slots member)
        fields.vacant
      return pack (← fields.settle slots)
    | .array elements => do
      let (row, rest) ← fields.readElements source name fields.size 0 elements
      surplus source elements.length rest
      return pack row
    | w => .error (w.misfit s!"struct {name}")

/-- Reads a member of an object into the slot of its field. -/
def Fields.visit (source : Source) : {types : List Type} → Fields types →
    Row (types.map Option) → Option String × Written → Except Misfit (Row (types.map Option))
  | _, .nil, slots, member =>
    match member.1 with
    | some _ => .ok slots
    | none => .error .unreadable
  | _, .cons field shape rest, (slot, slots), member =>
    match member.1 with
    | none => .error .unreadable
    | some key =>
      if field.answersTo key then
        match slot with
        | some _ => .error (.repeatedField field.name)
        | none => (shape.read source member.2).map fun a => (some a, slots)
      else (rest.visit source slots member).map fun slots => (slot, slots)

/-- Reads the fields from `index` on out of the elements of an array, and
    returns the elements that are left. -/
def Fields.readElements (source : Source) (record : String) (size : Nat) :
    {types : List Type} → Fields types → Nat → List Written →
    Except Misfit (Row types × List Written)
  | _, .nil, _, elements => .ok ((), elements)
  | _, .cons field shape rest, index, elements =>
    match elements with
    | e :: elements => do
      let a ← shape.read source e
      let (row, left) ← rest.readElements source record size (index + 1) elements
      return ((a, row), left)
    | [] =>
      match (if field.endsArray then field.absent? else none) with
      | some a => do
        let (row, left) ← rest.readElements source record size (index + 1) []
        return ((a, row), left)
      | none => .error (.tooShort index record size)

end

/-! ### Values and texts -/

def Shape.readValue {α : Type} (shape : Shape α) (j : Json) : Except Misfit α :=
  shape.read .value (Written.ofJson j)

/-- Why a text does not give a value of a shape. -/
inductive TextFault where
  | notJson
  /-- The text is JSON of another shape. -/
  | misfit (misfit : Misfit)
deriving DecidableEq, Repr

/-- Reads a text.  A text that is accepted may hold parts that stand for no
    value where no field looks; one that is refused is called no JSON if there
    is such a part anywhere in it. -/
def Shape.readText {α : Type} (shape : Shape α) (text : String) : Except TextFault α :=
  match Json.Parser.tree? text with
  | none => .error .notJson
  | some tree =>
    match shape.read .text tree with
    | .ok a => .ok a
    | .error misfit => .error (if tree.value?.isSome then .misfit misfit else .notJson)

end DidLedger
