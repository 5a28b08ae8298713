/-
  DidLedger/Shape/Writer.lean
  ===========================
  **Writing values by their shape.**

  `write` lays a value out with the fields of each record in their own order,
  which is the order of the text.  As a JSON value the same layout has its
  members in order of keys.
-/
import DidLedger.Json.Printer
import DidLedger.Shape.Basic

namespace DidLedger

mutual

/-- Lays out a value, the fields of a record in their own order. -/
def Shape.write : {α : Type} → Shape α → α → Json
  | _, .string, s => .string s
  | _, .word16, n => Json.ofNat n.toNat
  | _, .word64, n => Json.ofNat n.toNat
  | _, .json, j => j
  | _, .dictionary, members => .object members
  | _, .optional inner, o =>
    match o with
    | none => .null
    | some a => inner.write a
  | _, .sequence inner, as => .array (as.map fun a => inner.write a)
  | _, .choice _ nameOf _, a => .string (nameOf a)
  | _, .record _ fields _ unpack _, a => .object (fields.write (unpack a))

/-- The members of a record, without the fields that are left out. -/
def Fields.write : {types : List Type} → Fields types → Row types → List (String × Json)
  | _, .nil, _ => []
  | _, .cons field shape rest, (a, row) =>
    if field.omits a then rest.write row
    else (field.name, shape.write a) :: rest.write row

end

def Shape.toJson {α : Type} (shape : Shape α) (a : α) : Json :=
  (shape.write a).sorted

def Shape.toText {α : Type} (shape : Shape α) (a : α) : String :=
  (shape.write a).render

end DidLedger
