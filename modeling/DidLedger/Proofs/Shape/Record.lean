/-
  DidLedger/Proofs/Shape/Record.lean
  ==================================
  **A record is read from an object field by field.**

  The reader goes through the members of an object once and drops each into the
  slot of its field.  What it accepts can be said field by field: of the members
  that answer to a field there is one and it is read by the shape of the field,
  or there is none and the field may be absent (`Field.ofMembers`).  The members
  that answer to no field do not count (`readValue_object_eq_ok_iff`).

  In an object that has each key once, a field without further names is the
  member under its name (`ofMembers_eq_member`).
-/
import DidLedger.Proofs.Except
import DidLedger.Shape.Reader

namespace DidLedger

open DidLedger.Json (Written)

variable {α : Type} {types : List Type}

/-! ### Values as trees -/

theorem Json.Written.ofMembers_eq_map (members : List (String × Json)) :
    Written.ofMembers members = members.map fun m => (some m.1, Written.ofJson m.2) := by
  induction members with
  | nil => rfl
  | cons m members ih => rw [Written.ofMembers, ih, List.map_cons]

/-! ### Fields of an object -/

/-- What a field holds when no member answers to it. -/
def Field.absent (field : Field α) : Except Misfit α :=
  match field.absent? with
  | some a => .ok a
  | none => .error (.missingField field.name)

/-- What a field holds by the members that answer to it. -/
def Field.ofAnswering (field : Field α) (shape : Shape α) :
    List (String × Json) → Except Misfit α
  | [] => field.absent
  | [m] => shape.readValue m.2
  | _ => .error (.repeatedField field.name)

/-- What a field holds in an object with the given members. -/
def Field.ofMembers (field : Field α) (shape : Shape α) (members : List (String × Json)) :
    Except Misfit α :=
  field.ofAnswering shape (members.filter fun m => field.answersTo m.1)

/-- What the fields hold; a member belongs to the first field that it answers to. -/
def Fields.ofMembers : {types : List Type} → Fields types → List (String × Json) →
    Except Misfit (Row types)
  | _, .nil, _ => .ok ()
  | _, .cons field shape rest, members => do
    let a ← field.ofMembers shape members
    let row ← rest.ofMembers (members.filter fun m => !field.answersTo m.1)
    return (a, row)

theorem Fields.ofMembers_cons_eq_ok_iff {field : Field α} {shape : Shape α} {rest : Fields types}
    {members : List (String × Json)} {a : α} {row : Row types} :
    (Fields.cons field shape rest).ofMembers members = .ok (a, row) ↔
      field.ofMembers shape members = .ok a ∧
        rest.ofMembers (members.filter fun m => !field.answersTo m.1) = .ok row := by
  simp only [Fields.ofMembers, bind_eq_ok_iff, pure_eq_ok_iff, Prod.mk.injEq]
  constructor
  · rintro ⟨a', ha, row', hrow, rfl, rfl⟩
    exact ⟨ha, hrow⟩
  · rintro ⟨ha, hrow⟩
    exact ⟨a, ha, row, hrow, rfl, rfl⟩

/-! ### The slots of the reader -/

/-- A member of a value as the reader sees it. -/
def seen (m : String × Json) : Option String × Written :=
  (some m.1, Written.ofJson m.2)

/-- Reads a member into the slot of a field that it answers to. -/
def Field.enter (field : Field α) (shape : Shape α) (slot : Option α) (m : String × Json) :
    Except Misfit (Option α) :=
  match slot with
  | some _ => .error (.repeatedField field.name)
  | none => (shape.readValue m.2).map some

theorem Fields.visit_cons_of_answersTo {field : Field α} {shape : Shape α} {rest : Fields types}
    {m : String × Json} (h : field.answersTo m.1 = true) (slot : Option α)
    (slots : Row (types.map Option)) :
    (Fields.cons field shape rest).visit .value (slot, slots) (seen m) =
      (field.enter shape slot m).map fun slot => (slot, slots) := by
  cases slot with
  | some a => simp [Fields.visit, seen, h, Field.enter, Except.map]
  | none =>
    simp only [Fields.visit, seen, h, if_true, Field.enter, Shape.readValue]
    cases shape.read .value (Written.ofJson m.2) with
    | error e => rfl
    | ok a => rfl

theorem Fields.visit_cons_of_not_answersTo {field : Field α} {shape : Shape α}
    {rest : Fields types} {m : String × Json} (h : field.answersTo m.1 = false) (slot : Option α)
    (slots : Row (types.map Option)) :
    (Fields.cons field shape rest).visit .value (slot, slots) (seen m) =
      (rest.visit .value slots (seen m)).map fun slots => (slot, slots) := by
  simp [Fields.visit, seen, h]

/-- The members are dealt out: those that answer to the first field go to its
    slot, and the others to the slots behind it. -/
theorem Fields.foldlM_visit_cons {field : Field α} {shape : Shape α} {rest : Fields types}
    {members : List (String × Json)} {slot slot' : Option α}
    {slots slots' : Row (types.map Option)} :
    members.foldlM (fun slots m => (Fields.cons field shape rest).visit .value slots (seen m))
        (slot, slots) = .ok (slot', slots') ↔
      (members.filter fun m => field.answersTo m.1).foldlM (field.enter shape) slot = .ok slot' ∧
        (members.filter fun m => !field.answersTo m.1).foldlM
          (fun slots m => rest.visit .value slots (seen m)) slots = .ok slots' := by
  induction members generalizing slot slots with
  | nil =>
    simp only [List.foldlM_nil, List.filter_nil, pure_eq_ok_iff]
    constructor
    · intro h
      cases h
      exact ⟨rfl, rfl⟩
    · rintro ⟨rfl, rfl⟩
      rfl
  | cons m members ih =>
    cases h : field.answersTo m.1 with
    | true =>
      rw [List.foldlM_cons, Fields.visit_cons_of_answersTo h,
        List.filter_cons_of_pos (p := fun m : String × Json => field.answersTo m.1) h,
        List.filter_cons_of_neg (by simp [h]), List.foldlM_cons]
      -- a misfit ends both folds
      cases field.enter shape slot m with
      | error e =>
        constructor
        · intro hfold
          cases hfold
        · rintro ⟨hfold, -⟩
          cases hfold
      | ok slot => exact ih
    | false =>
      rw [List.foldlM_cons, Fields.visit_cons_of_not_answersTo h,
        List.filter_cons_of_neg (by simp [h]), List.filter_cons_of_pos (by simp [h]),
        List.foldlM_cons]
      cases rest.visit .value slots (seen m) with
      | error e =>
        constructor
        · intro hfold
          cases hfold
        · rintro ⟨-, hfold⟩
          cases hfold
      | ok slots => exact ih

/-- A slot takes one member at most, and an empty one stands for the absent field. -/
theorem Field.foldlM_enter {field : Field α} {shape : Shape α} {members : List (String × Json)}
    {a : α} :
    (∃ slot, members.foldlM (field.enter shape) none = .ok slot ∧
        (slot <|> field.absent?) = some a) ↔ field.ofAnswering shape members = .ok a := by
  cases members with
  | nil =>
    simp only [List.foldlM_nil, pure_eq_ok_iff, exists_eq_left', ofAnswering, absent]
    cases field.absent? with
    | none => simp
    | some b => simp
  | cons m members =>
    rw [List.foldlM_cons]
    cases members with
    | nil =>
      simp only [Field.enter, ofAnswering, List.foldlM_nil, bind_eq_ok_iff, map_eq_ok_iff,
        pure_eq_ok_iff]
      constructor
      · rintro ⟨slot, ⟨slot', ⟨b, hread, rfl⟩, rfl⟩, hslot⟩
        cases hslot
        exact hread
      · intro hread
        exact ⟨some a, ⟨some a, ⟨a, hread, rfl⟩, rfl⟩, rfl⟩
    | cons m' members =>
      simp only [Field.enter, ofAnswering, List.foldlM_cons, bind_eq_ok_iff, map_eq_ok_iff]
      constructor
      · rintro ⟨slot, ⟨slot', ⟨b, hread, rfl⟩, c, htwice, -⟩, hslot⟩
        cases htwice
      · intro h
        cases h

/-- The fields are settled from the slots of all members. -/
theorem Fields.settle_foldlM_visit : {types : List Type} → (fields : Fields types) →
    (members : List (String × Json)) → (row : Row types) →
    ((∃ slots, members.foldlM (fun slots m => fields.visit .value slots (seen m)) fields.vacant =
        .ok slots ∧ fields.settle slots = .ok row) ↔ fields.ofMembers members = .ok row)
  | _, .nil, members, row => by
    have hfold : ∀ slots, members.foldlM
        (fun slots m => Fields.nil.visit .value slots (seen m)) slots = .ok slots := by
      induction members with
      | nil => exact fun slots => rfl
      | cons m members ih => exact fun slots => ih slots
    constructor
    · intro _
      rfl
    · intro _
      exact ⟨(), hfold (), rfl⟩
  | _, .cons field shape rest, members, (a, row) => by
    -- the first field is settled from its own slot, the others by the hypothesis on the rest
    rw [Fields.ofMembers_cons_eq_ok_iff, ← settle_foldlM_visit rest, Field.ofMembers,
      ← Field.foldlM_enter]
    constructor
    · rintro ⟨⟨slot, slots⟩, hfold, hsettle⟩
      obtain ⟨hslot, hslots⟩ := Fields.foldlM_visit_cons.1 hfold
      simp only [Fields.settle] at hsettle
      split at hsettle
      · cases hsettle
      · rename_i b hb
        obtain ⟨row', hrow, heq⟩ := map_eq_ok_iff.1 hsettle
        cases heq
        exact ⟨⟨slot, hslot, hb⟩, slots, hslots, hrow⟩
    · rintro ⟨⟨slot, hslot, ha⟩, slots, hslots, hrow⟩
      refine ⟨(slot, slots), Fields.foldlM_visit_cons.2 ⟨hslot, hslots⟩, ?_⟩
      simp only [Fields.settle, ha, hrow]
      rfl

/-! ### Records -/

/-- **A record is read from an object when each field is read from the members
    that answer to it.** -/
theorem readValue_object_eq_ok_iff {name : String} {fields : Fields types} {pack : Row types → α}
    {unpack : α → Row types} {pack_unpack : ∀ a, pack (unpack a) = a}
    {members : List (String × Json)} {a : α} :
    (Shape.record name fields pack unpack pack_unpack).readValue (.object members) = .ok a ↔
      ∃ row, fields.ofMembers members = .ok row ∧ pack row = a := by
  simp only [Shape.readValue, Written.ofJson, Shape.read, Json.Written.ofMembers_eq_map,
    List.foldlM_map, bind_eq_ok_iff, pure_eq_ok_iff]
  constructor
  · rintro ⟨slots, hfold, row, hsettle, hpack⟩
    exact ⟨row, (fields.settle_foldlM_visit members row).1 ⟨slots, hfold, hsettle⟩, hpack⟩
  · rintro ⟨row, hrow, hpack⟩
    obtain ⟨slots, hfold, hsettle⟩ := (fields.settle_foldlM_visit members row).2 hrow
    exact ⟨slots, hfold, row, hsettle, hpack⟩

/-! ### Objects that have each key once -/

theorem filter_key_eq {members : List (String × Json)} (h : (members.map Prod.fst).Nodup)
    (key : String) :
    (members.filter fun m => m.1 == key) = (members.lookup key).toList.map (Prod.mk key) := by
  induction members with
  | nil => rfl
  | cons m members ih =>
    obtain ⟨k, v⟩ := m
    rw [List.map_cons, List.nodup_cons] at h
    by_cases hkey : k = key
    · subst hkey
      have hrest : (members.filter fun m => m.1 == k) = [] := by
        rw [List.filter_eq_nil_iff]
        intro m hm heq
        exact h.1 (List.mem_map.2 ⟨m, hm, beq_iff_eq.1 heq⟩)
      rw [List.filter_cons_of_pos (by simp), hrest, List.lookup_cons_self]
      rfl
    · rw [List.filter_cons_of_neg (by simpa using hkey), ih h.2, List.lookup_cons,
        beq_eq_false_iff_ne.2 (Ne.symm hkey)]

/-- **A field without further names is the member under its name.** -/
theorem Field.ofMembers_eq_lookup {field : Field α} (haliases : field.aliases = [])
    {members : List (String × Json)} (hkeys : (members.map Prod.fst).Nodup) (shape : Shape α) :
    field.ofMembers shape members =
      match members.lookup field.name with
      | some v => shape.readValue v
      | none => field.absent := by
  have hanswers : (fun m : String × Json => field.answersTo m.1) = fun m => m.1 == field.name := by
    funext m
    simp [Field.answersTo, haliases]
  rw [Field.ofMembers, hanswers, filter_key_eq hkeys]
  cases members.lookup field.name with
  | none => rfl
  | some v => rfl

/-- Members that a field does not answer to can be left out. -/
theorem Field.ofMembers_filter {field : Field α} {p : String × Json → Bool}
    (h : ∀ m, field.answersTo m.1 = true → p m = true) (shape : Shape α)
    (members : List (String × Json)) :
    field.ofMembers shape (members.filter p) = field.ofMembers shape members := by
  have hboth : (fun m : String × Json => field.answersTo m.1 && p m) =
      fun m => field.answersTo m.1 := by
    funext m
    cases hm : field.answersTo m.1 with
    | false => rfl
    | true => rw [h m hm, Bool.and_self]
  rw [Field.ofMembers, List.filter_filter, hboth, Field.ofMembers]

/-- A field that has to be there, of a shape that `null` does not have. -/
theorem ofMembers_required_eq_ok_iff {name : String} {shape : Shape α}
    (hnull : ∀ a, shape.readValue .null ≠ .ok a) {members : List (String × Json)}
    (hkeys : (members.map Prod.fst).Nodup) {a : α} :
    (Field.required name).ofMembers shape members = .ok a ↔
      shape.readValue ((Json.object members).member name) = .ok a := by
  rw [Field.ofMembers_eq_lookup rfl hkeys]
  simp only [Json.member]
  have hname : (Field.required name : Field α).name = name := rfl
  rw [hname]
  cases members.lookup name with
  | some v => rfl
  | none =>
    constructor
    · intro h
      cases h
    · intro h
      exact absurd h (hnull a)

/-- A field that is absent in the same sense in which it may be `null`. -/
theorem ofMembers_trailing_eq_ok_iff {name : String} {inner : Shape α}
    {members : List (String × Json)} (hkeys : (members.map Prod.fst).Nodup) {a : Option α} :
    (Field.trailing name).ofMembers (.optional inner) members = .ok a ↔
      (Shape.optional inner).readValue ((Json.object members).member name) = .ok a := by
  rw [Field.ofMembers_eq_lookup rfl hkeys]
  simp only [Json.member]
  have hname : (Field.trailing name : Field (Option α)).name = name := rfl
  rw [hname]
  cases members.lookup name with
  | some v => rfl
  | none => rfl

/-! ### Arrays -/

/-- The fields are the elements in order; at the end some may be missing. -/
def Fields.OfElements : {types : List Type} → Fields types → List Json → Row types → Prop
  | _, .nil, elements, _ => elements = []
  | _, .cons field _ rest, [], (a, row) =>
    field.endsArray = true ∧ field.absent? = some a ∧ rest.OfElements [] row
  | _, .cons _ shape rest, e :: elements, (a, row) =>
    shape.readValue e = .ok a ∧ rest.OfElements elements row

theorem Fields.readElements_eq_ok_iff (record : String) (size : Nat) : {types : List Type} →
    (fields : Fields types) → (index : Nat) → (elements : List Json) → (row : Row types) →
    (fields.readElements .value record size index (Written.ofElements elements) = .ok (row, []) ↔
      fields.OfElements elements row)
  | _, .nil, index, elements, row => by
    cases elements with
    | nil => exact ⟨fun _ => rfl, fun _ => rfl⟩
    | cons e elements =>
      constructor
      · intro h
        cases h
      · intro h
        cases h
  | _, .cons field shape rest, index, [], (a, row) => by
    simp only [Fields.readElements, Written.ofElements, Fields.OfElements]
    have hrest := readElements_eq_ok_iff record size rest (index + 1) [] row
    rw [Written.ofElements] at hrest
    cases field.endsArray with
    | false => simp
    | true =>
      cases field.absent? with
      | none => simp
      | some b =>
        simp only [if_true, bind_eq_ok_iff, pure_eq_ok_iff, Prod.exists, Prod.mk.injEq, true_and,
          Option.some.injEq, ← hrest]
        constructor
        · rintro ⟨row', left, hread, ⟨rfl, rfl⟩, rfl⟩
          exact ⟨rfl, hread⟩
        · rintro ⟨rfl, hread⟩
          exact ⟨row, [], hread, ⟨rfl, rfl⟩, rfl⟩
  | _, .cons field shape rest, index, e :: elements, (a, row) => by
    simp only [Fields.readElements, Written.ofElements, Fields.OfElements, bind_eq_ok_iff,
      pure_eq_ok_iff, Prod.exists, Prod.mk.injEq,
      ← readElements_eq_ok_iff record size rest (index + 1) elements row]
    constructor
    · rintro ⟨b, hread, row', left, hrest, ⟨rfl, rfl⟩, rfl⟩
      exact ⟨hread, hrest⟩
    · rintro ⟨hread, hrest⟩
      exact ⟨a, hread, row, [], hrest, ⟨rfl, rfl⟩, rfl⟩

/-- No element may be left behind the last field. -/
theorem surplus_eq_ok_iff {source : Source} {length : Nat} {left : List Written} {u : Unit} :
    surplus source length left = .ok u ↔ left = [] := by
  cases left with
  | nil => simp [surplus]
  | cons w left => cases source <;> simp [surplus]

/-- **A record is read from an array when its fields are the elements.** -/
theorem readValue_array_eq_ok_iff {name : String} {fields : Fields types} {pack : Row types → α}
    {unpack : α → Row types} {pack_unpack : ∀ a, pack (unpack a) = a} {elements : List Json}
    {a : α} :
    (Shape.record name fields pack unpack pack_unpack).readValue (.array elements) = .ok a ↔
      ∃ row, fields.OfElements elements row ∧ pack row = a := by
  simp only [Shape.readValue, Written.ofJson, Shape.read, bind_eq_ok_iff, pure_eq_ok_iff,
    Prod.exists, ← Fields.readElements_eq_ok_iff name fields.size fields 0 elements]
  constructor
  · rintro ⟨row, left, hread, ⟨⟩, hleft, hpack⟩
    rw [surplus_eq_ok_iff.1 hleft] at hread
    exact ⟨row, hread, hpack⟩
  · rintro ⟨row, hread, hpack⟩
    exact ⟨row, [], hread, (), surplus_eq_ok_iff.2 rfl, hpack⟩

end DidLedger
