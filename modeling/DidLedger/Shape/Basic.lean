/-
  DidLedger/Shape/Basic.lean
  ==========================
  **Shapes: how the values of a type are laid out in JSON.**

  `Shape α` describes the layout of the values of `α`.  Reading, writing and the
  wording of what does not fit are written once, by recursion on shapes, and a
  type of the domain only has to give its shape.

  A record is a list of fields with names.  It may be written as an object, or
  as an array of its fields in order.  A field says under which other names it
  is read, what it holds when it is absent, and when it is left out on output;
  a field may only be left out at a value that its absence stands for, and that
  is part of the type.
-/
import DidLedger.Json.Value

namespace DidLedger

/-- Values of the given types, in order. -/
abbrev Row : List Type → Type
  | [] => Unit
  | α :: types => α × Row types

/-- What a record says about one of its fields. -/
structure Field (α : Type) where
  /-- The name the field is written under. -/
  name : String
  aliases : List String
  /-- What the field holds in an object that does not have it, unless that is
      an error. -/
  absent? : Option α
  /-- Whether the field may also be absent at the end of an array. -/
  endsArray : Bool
  /-- Whether a value is left out on output. -/
  omits : α → Bool
  /-- A value that is left out is the one its absence stands for. -/
  absent_of_omits : ∀ a, omits a = true → absent? = some a

namespace Field

variable {α : Type}

/-- A field that is always present. -/
def required (name : String) : Field α where
  name := name
  aliases := []
  absent? := none
  endsArray := false
  omits _ := false
  absent_of_omits := by simp

/-- A field that holds `value` when it is absent, and is always written. -/
def withDefault (name : String) (value : α) : Field α where
  name := name
  aliases := []
  absent? := some value
  endsArray := true
  omits _ := false
  absent_of_omits := by simp

/-- A field that may be absent from an object, and is always written. -/
def nullable (name : String) : Field (Option α) where
  name := name
  aliases := []
  absent? := some none
  endsArray := false
  omits _ := false
  absent_of_omits := by simp

/-- A field that is left out of an object when it holds nothing, but has its
    place in an array. -/
def optional (name : String) : Field (Option α) where
  name := name
  aliases := []
  absent? := some none
  endsArray := false
  omits := Option.isNone
  absent_of_omits := by simp

/-- A field that is left out when it holds nothing, from an array too. -/
def trailing (name : String) : Field (Option α) where
  name := name
  aliases := []
  absent? := some none
  endsArray := true
  omits := Option.isNone
  absent_of_omits := by simp

/-- The field, also read under another name. -/
def alsoNamed (field : Field α) (other : String) : Field α :=
  { field with aliases := field.aliases ++ [other] }

/-- Whether a member with this key belongs to the field. -/
def answersTo (field : Field α) (key : String) : Bool :=
  key == field.name || field.aliases.contains key

end Field

mutual

/-- How the values of a type are laid out. -/
inductive Shape : Type → Type 1
  | string : Shape String
  /-- An integer of 16 bits without sign. -/
  | word16 : Shape UInt16
  /-- An integer of 64 bits without sign. -/
  | word64 : Shape UInt64
  | json : Shape Json
  /-- An object with any members, kept as it is. -/
  | dictionary : Shape (List (String × Json))
  | optional {α : Type} (inner : Shape α) : Shape (Option α)
  | sequence {α : Type} (inner : Shape α) : Shape (List α)
  | choice {α : Type} (variants : List (String × α)) (nameOf : α → String)
      (lookup_nameOf : ∀ a, variants.lookup (nameOf a) = some a) : Shape α
  | record {α : Type} {types : List Type} (name : String) (fields : Fields types)
      (pack : Row types → α) (unpack : α → Row types)
      (pack_unpack : ∀ a, pack (unpack a) = a) : Shape α

/-- The fields of a record, in order. -/
inductive Fields : List Type → Type 1
  | nil : Fields []
  | cons {α : Type} {types : List Type} (field : Field α) (shape : Shape α)
      (rest : Fields types) : Fields (α :: types)

end

def Fields.size : {types : List Type} → Fields types → Nat
  | _, .nil => 0
  | _, .cons _ _ rest => rest.size + 1

end DidLedger
