/-
  DidLedger/Proofs/Shape/Text.lean
  ================================
  **The text that a value is written as reads as the value.**

  A tree is read by a shape with one result, whether it is the tree of a value or of
  a text; the two differ in what is said of a misfit only (`Shape.read_source_iff`).
  A text has the members of a record in the order of the fields, and its tree has
  them in this order too, if there is nothing in the layout that a text loses.  That
  can be told from the shape: none of its parts is kept as it was found, and it nests
  as few levels as a text may have (`Shape.Within`).
-/
import DidLedger.Proofs.Json.RoundTrip
import DidLedger.Proofs.Shape.NormalForm

namespace DidLedger

open DidLedger.Json (Written)

/-! ### Trees of values and of texts -/

section
variable {σ τ ε : Type}

theorem foldlM_eq_ok_congr {f g : σ → τ → Except ε σ} {l : List τ}
    (h : ∀ t ∈ l, ∀ s s', f s t = .ok s' ↔ g s t = .ok s') {s s' : σ} :
    l.foldlM f s = .ok s' ↔ l.foldlM g s = .ok s' := by
  induction l generalizing s with
  | nil => rfl
  | cons t l ih =>
    have hrest : ∀ s₁, l.foldlM f s₁ = .ok s' ↔ l.foldlM g s₁ = .ok s' := fun s₁ =>
      ih fun u hu => h u (List.mem_cons_of_mem _ hu)
    simp only [List.foldlM_cons, bind_eq_ok_iff, h t List.mem_cons_self, hrest]

theorem mapM_eq_ok_congr {f g : σ → Except ε τ} {l : List σ}
    (h : ∀ s ∈ l, ∀ t, f s = .ok t ↔ g s = .ok t) {ts : List τ} :
    l.mapM f = .ok ts ↔ l.mapM g = .ok ts := by
  induction l generalizing ts with
  | nil => rfl
  | cons s l ih =>
    have hrest : ∀ ts, l.mapM f = .ok ts ↔ l.mapM g = .ok ts := fun ts =>
      ih fun u hu => h u (List.mem_cons_of_mem _ hu)
    simp only [List.mapM_cons, bind_eq_ok_iff, h s List.mem_cons_self, hrest]

end

theorem readChoice_source_iff {α : Type} {variants : List (String × α)} (source : Source)
    {w : Written} {a : α} :
    readChoice variants source w = .ok a ↔ readChoice variants .value w = .ok a := by
  cases source with
  | value => rfl
  | text =>
    cases w with
    | object members =>
      match members with
      | [] => simp [readChoice]
      | [(key, content)] => rfl
      | (key, content) :: m :: ms => simp [readChoice, bind_eq_ok_iff]
    | _ => simp [readChoice]

mutual

/-- **Texts and values are read alike.** -/
theorem Shape.read_source_iff (source : Source) : {α : Type} → (shape : Shape α) → {w : Written} →
    {a : α} → (shape.read source w = .ok a ↔ shape.read .value w = .ok a)
  | _, .string, _, _ => by simp only [Shape.read]
  | _, .word16, _, _ => by simp only [Shape.read]
  | _, .word64, _, _ => by simp only [Shape.read]
  | _, .json, _, _ => by simp only [Shape.read]
  | _, .dictionary, _, _ => by simp only [Shape.read]
  | _, .optional inner, w, o => by
    simp only [Shape.read_optional_eq_ok_iff, Shape.read_source_iff source inner]
  | _, .sequence inner, w, as => by
    simp only [Shape.read]
    split
    · exact mapM_eq_ok_congr fun e _ a => Shape.read_source_iff source inner
    · rfl
  | _, .choice variants _ _, w, a => by
    simp only [Shape.read]
    exact readChoice_source_iff source
  | _, .record name fields pack unpack _, w, a => by
    simp only [Shape.read]
    split
    · rename_i members
      -- the members are folded alike, and the slots are settled without a look at the source
      have hfold : ∀ slots, members.foldlM (fun slots member => fields.visit source slots member)
          fields.vacant = .ok slots ↔ members.foldlM
            (fun slots member => fields.visit .value slots member) fields.vacant = .ok slots :=
        fun slots => foldlM_eq_ok_congr fun m _ s s' => Fields.visit_source_iff source fields
      simp only [bind_eq_ok_iff, hfold]
    · rename_i elements
      simp only [bind_eq_ok_iff, Prod.exists, surplus_eq_ok_iff,
        Fields.readElements_source_iff source name fields.size fields]
    · rfl

theorem Fields.visit_source_iff (source : Source) : {types : List Type} → (fields : Fields types) →
    {slots slots' : Row (types.map Option)} → {member : Option String × Written} →
    (fields.visit source slots member = .ok slots' ↔ fields.visit .value slots member = .ok slots')
  | _, .nil, _, _, _ => by simp only [Fields.visit]
  | _, .cons field shape rest, (slot, slots), slots', (key, w) => by
    simp only [Fields.visit]
    split
    · rfl
    · split
      · split
        · rfl
        · simp only [map_eq_ok_iff, Shape.read_source_iff source shape]
      · simp only [map_eq_ok_iff, Fields.visit_source_iff source rest]

theorem Fields.readElements_source_iff (source : Source) (record : String) (size : Nat) :
    {types : List Type} → (fields : Fields types) → {index : Nat} →
    {elements left : List Written} → {row : Row types} →
    (fields.readElements source record size index elements = .ok (row, left) ↔
      fields.readElements .value record size index elements = .ok (row, left))
  | _, .nil, _, _, _, _ => by simp only [Fields.readElements]
  | _, .cons field shape rest, index, elements, left, row => by
    simp only [Fields.readElements]
    split
    · simp only [bind_eq_ok_iff, Prod.exists, Shape.read_source_iff source shape,
        Fields.readElements_source_iff source record size rest]
    · split
      · simp only [bind_eq_ok_iff, Prod.exists,
          Fields.readElements_source_iff source record size rest]
      · rfl

end

/-! ### Layouts that a text keeps -/

mutual

/-- Values of the shape are written with at most so many levels, and no part of them is
    kept as it was found: it could nest deeper, or hold a floating-point number. -/
def Shape.Within : {α : Type} → Shape α → Nat → Prop
  | _, .optional inner, levels => inner.Within levels
  | _, .sequence inner, levels + 1 => inner.Within levels
  | _, .record _ fields _ _ _, levels + 1 => fields.Within levels
  | _, .string, _ => True
  | _, .word16, _ => True
  | _, .word64, _ => True
  | _, .choice _ _ _, _ => True
  | _, _, _ => False

def Fields.Within : {types : List Type} → Fields types → Nat → Prop
  | _, .nil, _ => True
  | _, .cons _ shape rest, levels => shape.Within levels ∧ rest.Within levels

end

mutual

theorem Shape.exact_write : {α : Type} → (shape : Shape α) → {levels : Nat} →
    shape.Within levels → (a : α) → (shape.write a).Exact levels
  | _, .optional inner, levels, h, o => by
    cases o with
    | none => exact Json.exact_null levels
    | some a => exact Shape.exact_write inner h a
  | _, .sequence inner, levels + 1, h, as => by
    apply Json.exact_array
    intro e he
    obtain ⟨a, -, rfl⟩ := List.mem_map.1 he
    exact Shape.exact_write inner h a
  | _, .record _ fields _ unpack _, levels + 1, h, a =>
    Json.exact_object (Fields.exact_write fields h (unpack a))
  | _, .string, levels, _, s => Json.exact_string levels s
  | _, .word16, levels, _, n =>
    Json.exact_ofNat levels (n.toNat_lt_size.trans (by decide))
  | _, .word64, levels, _, n => Json.exact_ofNat levels n.toNat_lt_size
  | _, .choice _ nameOf _, levels, _, a => Json.exact_string levels (nameOf a)

theorem Fields.exact_write : {types : List Type} → (fields : Fields types) → {levels : Nat} →
    fields.Within levels → (row : Row types) → ∀ m ∈ fields.write row, m.2.Exact levels
  | _, .nil, _, _, _ => nofun
  | _, .cons field shape rest, levels, h, (a, row) => by
    have hrest := Fields.exact_write rest h.2 row
    intro m hm
    rw [Fields.write] at hm
    split at hm
    · exact hrest m hm
    · rcases List.mem_cons.1 hm with rfl | hm
      · exact Shape.exact_write shape h.1 a
      · exact hrest m hm

end

/-- **A value is read back from the text it is written as.** -/
theorem Shape.readText_toText {α : Type} {shape : Shape α} (hregular : shape.Regular)
    (hwithin : shape.Within Json.Parser.maxDepth) {a : α} (h : shape.Canonical a) :
    shape.readText (shape.toText a) = .ok a := by
  have htree := (Shape.exact_write shape hwithin a).tree?_render
  have hread : shape.read .text (Written.ofJson (shape.write a)) = .ok a :=
    (Shape.read_source_iff .text shape).2
      (Shape.readValue_write Json.rearranges_id shape hregular h)
  simp only [readText, toText, htree, hread]

end DidLedger
