/-
  DidLedger/Proofs/Shape/NormalForm.lean
  ======================================
  **What a value is written as reads back as the value.**

  Reading forgets: members that belong to no field, the name under which a member
  was found, whether a field was `null` or not there at all, the order of the
  members.  What it gives is a canonical value (`Shape.Canonical`): the parts that
  were kept as they are have their members in order, and nothing that is there is
  written as `null`, which would read as nothing.  Canonical values survive being
  written and read again, provided that the fields of each record can be told
  apart by their names (`Shape.Regular`).

  Both halves follow the shape; the fields of a record are taken one by one.  The
  second does not look at the order of members, so it holds of the value and of the
  text alike (`Shape.readValue_write`).
-/
import DidLedger.Proofs.Json.Sorted
import DidLedger.Proofs.Shape.Record
import DidLedger.Shape.Writer

namespace DidLedger

open DidLedger.Json (Written)

/-! ### Canonical values -/

/-- The names under which fields are written. -/
def Fields.names : {types : List Type} → Fields types → List String
  | _, .nil => []
  | _, .cons field _ rest => field.name :: rest.names

mutual

/-- What holds of every value that was read. -/
def Shape.Canonical : {α : Type} → Shape α → α → Prop
  | _, .json, j => j.sorted = j
  | _, .dictionary, members => (Json.object members).sorted = .object members
  | _, .optional inner, o => ∀ a, o = some a → inner.toJson a ≠ .null ∧ inner.Canonical a
  | _, .sequence inner, as => ∀ a ∈ as, inner.Canonical a
  | _, .record _ fields _ unpack _, a => fields.Canonical (unpack a)
  | _, .string, _ => True
  | _, .word16, _ => True
  | _, .word64, _ => True
  | _, .choice _ _ _, _ => True

def Fields.Canonical : {types : List Type} → Fields types → Row types → Prop
  | _, .nil, _ => True
  | _, .cons _ shape rest, (a, row) => shape.Canonical a ∧ rest.Canonical row

end

mutual

/-- No field of a record answers to the name of a later one, what an absent field
    holds is canonical, and a row is what its record is taken apart into. -/
def Shape.Regular : {α : Type} → Shape α → Prop
  | _, .optional inner => inner.Regular
  | _, .sequence inner => inner.Regular
  | _, .record _ fields pack unpack _ => (∀ row, unpack (pack row) = row) ∧ fields.Regular
  | _, .string => True
  | _, .word16 => True
  | _, .word64 => True
  | _, .json => True
  | _, .dictionary => True
  | _, .choice _ _ _ => True

def Fields.Regular : {types : List Type} → Fields types → Prop
  | _, .nil => True
  | _, .cons field shape rest =>
    (∀ name ∈ rest.names, field.answersTo name = false) ∧
      (∀ a, field.absent? = some a → shape.Canonical a) ∧ shape.Regular ∧ rest.Regular

end

/-! ### What is read is canonical -/

section
variable {σ τ ε : Type}

theorem foldlM_induct {P : σ → Prop} {f : σ → τ → Except ε σ} {l : List τ} {s s' : σ}
    (h : l.foldlM f s = .ok s') (hstep : ∀ t ∈ l, ∀ s s', P s → f s t = .ok s' → P s') (hs : P s) :
    P s' := by
  induction l generalizing s with
  | nil =>
    cases h
    exact hs
  | cons t l ih =>
    rw [List.foldlM_cons, bind_eq_ok_iff] at h
    obtain ⟨s₁, hfirst, hrest⟩ := h
    exact ih hrest (fun t ht => hstep t (List.mem_cons_of_mem _ ht))
      (hstep t List.mem_cons_self s s₁ hs hfirst)

theorem exists_of_mapM {f : σ → Except ε τ} {l : List σ} {ts : List τ} (h : l.mapM f = .ok ts) :
    ∀ t ∈ ts, ∃ s ∈ l, f s = .ok t := by
  induction l generalizing ts with
  | nil =>
    cases h
    intro t ht
    cases ht
  | cons s l ih =>
    simp only [List.mapM_cons, bind_eq_ok_iff, pure_eq_ok_iff] at h
    obtain ⟨t, ht, ts, hts, rfl⟩ := h
    intro u hu
    rcases List.mem_cons.1 hu with rfl | hu
    · exact ⟨s, List.mem_cons_self, ht⟩
    · obtain ⟨s', hs', hf⟩ := ih hts u hu
      exact ⟨s', List.mem_cons_of_mem _ hs', hf⟩

end

theorem Shape.read_optional_eq_ok_iff {source : Source} {α : Type} {inner : Shape α} {w : Written}
    {o : Option α} :
    (Shape.optional inner).read source w = .ok o ↔
      w = .null ∧ o = none ∨ w ≠ .null ∧ ∃ a, inner.read source w = .ok a ∧ o = some a := by
  by_cases hw : w = .null
  · subst hw
    simp [Shape.read, eq_comm]
  · simp [Shape.read, hw, map_eq_ok_iff, @eq_comm _ o]

/-- What a value is written as is `null` only if it was read from `null`. -/
theorem Shape.toJson_ne_null (source : Source) : {α : Type} → (shape : Shape α) → {w : Written} →
    {a : α} → shape.read source w = .ok a → w ≠ .null → shape.toJson a ≠ .null
  | _, .optional inner, w, a, h, hw => by
    rcases read_optional_eq_ok_iff.1 h with ⟨rfl, -⟩ | ⟨-, b, hb, rfl⟩
    · exact absurd rfl hw
    · exact toJson_ne_null source inner hb hw
  | _, .json, w, a, h, hw => by
    simp only [Shape.read, readAny] at h
    split at h
    · rename_i j hj
      cases h
      rw [toJson, write, Written.sorted_of_value? w hj]
      rintro rfl
      cases w with
      | null => exact hw rfl
      | array elements => simp [Written.value?] at hj
      | object members => simp [Written.value?, Json.ofMembers] at hj
      | _ => cases hj
    · cases h
  | _, .string, _, _, _, _ => by simp [toJson, write, Json.sorted]
  | _, .word16, _, _, _, _ => by simp [toJson, write, Json.sorted, Json.ofNat]
  | _, .word64, _, _, _, _ => by simp [toJson, write, Json.sorted, Json.ofNat]
  | _, .dictionary, _, _, _, _ => by simp [toJson, write, Json.sorted]
  | _, .sequence _, _, _, _, _ => by simp [toJson, write, Json.sorted]
  | _, .choice _ _ _, _, _, _, _ => by simp [toJson, write, Json.sorted]
  | _, .record _ _ _ _ _, _, _, _, _ => by simp [toJson, write, Json.sorted]

/-- Slots that hold canonical values, as far as they are filled. -/
def Fields.CanonicalSlots : {types : List Type} → Fields types → Row (types.map Option) → Prop
  | _, .nil, _ => True
  | _, .cons _ shape rest, (slot, slots) =>
    (∀ a, slot = some a → shape.Canonical a) ∧ rest.CanonicalSlots slots

theorem Fields.canonicalSlots_vacant : {types : List Type} → (fields : Fields types) →
    fields.CanonicalSlots fields.vacant
  | _, .nil => trivial
  | _, .cons _ _ rest => ⟨nofun, rest.canonicalSlots_vacant⟩

theorem Fields.canonical_settle : {types : List Type} → (fields : Fields types) → fields.Regular →
    {slots : Row (types.map Option)} → {row : Row types} → fields.CanonicalSlots slots →
    fields.settle slots = .ok row → fields.Canonical row
  | _, .nil, _, _, _, _, _ => trivial
  | _, .cons field shape rest, hregular, (slot, slots), (a, row), hslots, h => by
    obtain ⟨-, habsent, -, hrest⟩ := hregular
    simp only [Fields.settle] at h
    split at h
    · cases h
    · rename_i b hb
      obtain ⟨row', hrow, heq⟩ := map_eq_ok_iff.1 h
      cases heq
      refine ⟨?_, canonical_settle rest hrest hslots.2 hrow⟩
      cases slot with
      | some c =>
        cases hb
        exact hslots.1 a rfl
      | none => exact habsent a hb

mutual

/-- **What is read is canonical.** -/
theorem Shape.canonical_of_read (source : Source) : {α : Type} → (shape : Shape α) →
    shape.Regular → {w : Written} → {a : α} → shape.read source w = .ok a → shape.Canonical a
  | _, .json, _, w, a, h => by
    simp only [Shape.read, readAny] at h
    split at h
    · rename_i j hj
      cases h
      exact Written.sorted_of_value? w hj
    · cases h
  | _, .dictionary, _, w, a, h => by
    simp only [Shape.read] at h
    unfold readDictionary at h
    split at h
    · rename_i members
      split at h
      · rename_i values hvalues
        cases h
        exact Json.sorted_ofMembers (Written.sorted_of_memberValues? members hvalues)
      · cases h
    · cases h
  | _, .optional inner, hregular, w, o, h => by
    intro a ho
    rcases Shape.read_optional_eq_ok_iff.1 h with ⟨-, rfl⟩ | ⟨hw, b, hb, rfl⟩
    · cases ho
    · cases ho
      exact ⟨Shape.toJson_ne_null source inner hb hw,
        Shape.canonical_of_read source inner hregular hb⟩
  | _, .sequence inner, hregular, w, as, h => by
    simp only [Shape.read] at h
    split at h
    · intro a ha
      obtain ⟨e, -, he⟩ := exists_of_mapM h a ha
      exact Shape.canonical_of_read source inner hregular he
    · cases h
  | _, .record name fields pack unpack _, hregular, w, a, h => by
    obtain ⟨hunpack, hfields⟩ := hregular
    rw [Shape.Canonical]
    simp only [Shape.read] at h
    split at h
    · rename_i members
      simp only [bind_eq_ok_iff, pure_eq_ok_iff] at h
      obtain ⟨slots, hfold, row, hsettle, rfl⟩ := h
      rw [hunpack]
      apply Fields.canonical_settle fields hfields _ hsettle
      exact foldlM_induct hfold (fun m _ s s' => Fields.canonicalSlots_visit source fields hfields)
        fields.canonicalSlots_vacant
    · rename_i elements
      simp only [bind_eq_ok_iff, pure_eq_ok_iff, Prod.exists] at h
      obtain ⟨row, left, hread, _, -, rfl⟩ := h
      rw [hunpack]
      exact Fields.canonical_readElements source name fields.size fields hfields hread
    · cases h
  | _, .string, _, _, _, _ => trivial
  | _, .word16, _, _, _, _ => trivial
  | _, .word64, _, _, _, _ => trivial
  | _, .choice _ _ _, _, _, _, _ => trivial

theorem Fields.canonicalSlots_visit (source : Source) : {types : List Type} →
    (fields : Fields types) → fields.Regular → {slots slots' : Row (types.map Option)} →
    {member : Option String × Written} → fields.CanonicalSlots slots →
    fields.visit source slots member = .ok slots' → fields.CanonicalSlots slots'
  | _, .nil, _, _, _, _, _, _ => trivial
  | _, .cons field shape rest, hregular, (slot, slots), slots', member, hslots, h => by
    obtain ⟨-, -, hshape, hrest⟩ := hregular
    simp only [Fields.visit] at h
    split at h
    · cases h
    · split at h
      · split at h
        · cases h
        · obtain ⟨a, ha, rfl⟩ := map_eq_ok_iff.1 h
          refine ⟨?_, hslots.2⟩
          intro b hb
          cases hb
          exact Shape.canonical_of_read source shape hshape ha
      · obtain ⟨slots'', hvisit, rfl⟩ := map_eq_ok_iff.1 h
        exact ⟨hslots.1, Fields.canonicalSlots_visit source rest hrest hslots.2 hvisit⟩

theorem Fields.canonical_readElements (source : Source) (record : String) (size : Nat) :
    {types : List Type} → (fields : Fields types) → fields.Regular → {index : Nat} →
    {elements left : List Written} → {row : Row types} →
    fields.readElements source record size index elements = .ok (row, left) → fields.Canonical row
  | _, .nil, _, _, _, _, _, _ => trivial
  | _, .cons field shape rest, hregular, index, elements, left, row, h => by
    obtain ⟨-, habsent, hshape, hrest⟩ := hregular
    simp only [Fields.readElements] at h
    split at h
    · simp only [bind_eq_ok_iff, pure_eq_ok_iff, Prod.exists, Prod.mk.injEq] at h
      obtain ⟨a, ha, row', left', hread, rfl, -⟩ := h
      exact ⟨Shape.canonical_of_read source shape hshape ha,
        Fields.canonical_readElements source record size rest hrest hread⟩
    · split at h
      · rename_i a ha
        simp only [bind_eq_ok_iff, pure_eq_ok_iff, Prod.exists, Prod.mk.injEq] at h
        obtain ⟨row', left', hread, rfl, -⟩ := h
        have habs : field.absent? = some a := by
          cases hends : field.endsArray with
          | true => rwa [hends, if_pos rfl] at ha
          | false =>
            rw [hends] at ha
            cases ha
        exact ⟨habsent a habs, Fields.canonical_readElements source record size rest hrest hread⟩
      · cases h

end

/-! ### Canonical values are read back -/

theorem Field.answersTo_name {α : Type} (field : Field α) : field.answersTo field.name = true := by
  simp [answersTo]

/-- The keys of what is written are names of fields, each at most once. -/
theorem Fields.keys_write : {types : List Type} → (fields : Fields types) → fields.Regular →
    (row : Row types) →
    (∀ m ∈ fields.write row, m.1 ∈ fields.names) ∧ ((fields.write row).map Prod.fst).Nodup
  | _, .nil, _, _ => ⟨nofun, .nil⟩
  | _, .cons field shape rest, hregular, (a, row) => by
    obtain ⟨hnames, -, -, hrest⟩ := hregular
    obtain ⟨hmem, hnodup⟩ := keys_write rest hrest row
    rw [write]
    split
    · exact ⟨fun m hm => List.mem_cons_of_mem _ (hmem m hm), hnodup⟩
    · constructor
      · intro m hm
        rcases List.mem_cons.1 hm with rfl | hm
        · exact List.mem_cons_self
        · exact List.mem_cons_of_mem _ (hmem m hm)
      · rw [List.map_cons, List.nodup_cons]
        refine ⟨?_, hnodup⟩
        intro hname
        obtain ⟨m, hm, heq⟩ := List.mem_map.1 hname
        have hanswers := hnames m.1 (hmem m hm)
        rw [heq, field.answersTo_name] at hanswers
        cases hanswers

theorem mapM_map_eq_ok {σ τ ε : Type} {f : σ → Except ε τ} {g : τ → σ} {l : List τ}
    (h : ∀ t ∈ l, f (g t) = .ok t) : (l.map g).mapM f = .ok l := by
  induction l with
  | nil => rfl
  | cons t l ih =>
    rw [List.map_cons, List.mapM_cons, h t List.mem_cons_self,
      ih fun u hu => h u (List.mem_cons_of_mem _ hu)]
    rfl

theorem Json.Written.ofElements_eq_map (elements : List Json) :
    Written.ofElements elements = elements.map Written.ofJson := by
  induction elements with
  | nil => rfl
  | cons e es ih => rw [Written.ofElements, ih, List.map_cons]

theorem readWord_of_lt {limit n : Nat} (h : n < limit) (expected : String) :
    readWord limit expected (.number (.integer n)) = .ok n := by
  have hn : 0 ≤ (n : Int) ∧ (n : Int) < limit := ⟨Int.natCast_nonneg n, Int.ofNat_lt.2 h⟩
  rw [readWord, if_pos hn, Int.toNat_natCast]

section
variable {f : Json → Json}

theorem readValue_word16 (hf : Json.Rearranges f) (n : UInt16) :
    Shape.word16.readValue (f (Shape.word16.write n)) = .ok n := by
  rw [Shape.readValue, Shape.write, Json.ofNat, hf.number, Written.ofJson]
  simp only [Shape.read]
  rw [readWord_of_lt n.toNat_lt_size, Except.map, UInt16.ofNat_toNat]

theorem readValue_word64 (hf : Json.Rearranges f) (n : UInt64) :
    Shape.word64.readValue (f (Shape.word64.write n)) = .ok n := by
  rw [Shape.readValue, Shape.write, Json.ofNat, hf.number, Written.ofJson]
  simp only [Shape.read]
  rw [readWord_of_lt n.toNat_lt_size, Except.map, UInt64.ofNat_toNat]

mutual

/-- **A canonical value is read back from what it is written as**, whatever order the
    members are in. -/
theorem Shape.readValue_write (hf : Json.Rearranges f) : {α : Type} → (shape : Shape α) →
    shape.Regular → {a : α} → shape.Canonical a → shape.readValue (f (shape.write a)) = .ok a
  | _, .string, _, s, _ => by
    rw [Shape.readValue, Shape.write, hf.string]
    rfl
  | _, .word16, _, n, _ => readValue_word16 hf n
  | _, .word64, _, n, _ => readValue_word64 hf n
  | _, .json, _, j, h => by
    rw [Shape.Canonical] at h
    simp only [Shape.readValue, Shape.write, Shape.read, readAny, Written.value?_ofJson,
      hf.sorted, h]
  | _, .dictionary, _, members, h => by
    rw [Shape.Canonical] at h
    -- members that are in order have each key once, so they can be moved
    have hkeys : (members.map Prod.fst).Nodup := by
      rw [Json.sorted, Json.object.injEq] at h
      rw [← h, List.Nodup, List.pairwise_map]
      exact (Json.sortMembers_spec _).1.imp String.ne_of_lt
    obtain ⟨moved, hmoved, -⟩ := hf.object members hkeys
    rw [← hf.sorted, hmoved, Json.sorted, Json.object.injEq] at h
    rw [Shape.readValue, Shape.write, hmoved, Written.ofJson]
    simp only [Shape.read, readDictionary, Written.memberValues?_ofMembers, h]
  | _, .optional inner, hregular, o, h => by
    cases o with
    | none =>
      rw [Shape.readValue, Shape.write, hf.null]
      rfl
    | some a =>
      obtain ⟨hnull, ha⟩ := h a rfl
      have hread := Shape.readValue_write hf inner hregular ha
      -- what moves members about makes no `null` of anything else
      have hwritten : Written.ofJson (f (inner.write a)) ≠ .null := by
        intro heq
        cases hjson : f (inner.write a) with
        | null =>
          rw [Shape.toJson, ← hf.sorted, hjson] at hnull
          exact hnull rfl
        | _ => simp [hjson, Written.ofJson] at heq
      exact Shape.read_optional_eq_ok_iff.2 (.inr ⟨hwritten, a, hread, rfl⟩)
  | _, .sequence inner, hregular, as, h => by
    have helements : ∀ a ∈ as, inner.read .value (Written.ofJson (f (inner.write a))) = .ok a :=
      fun a ha => Shape.readValue_write hf inner hregular (h a ha)
    rw [Shape.readValue, Shape.write, hf.array, List.map_map, Written.ofJson,
      Written.ofElements_eq_map, List.map_map]
    simp only [Shape.read]
    exact mapM_map_eq_ok helements
  | _, .choice variants nameOf lookup_nameOf, _, a, _ => by
    rw [Shape.readValue, Shape.write, hf.string, Written.ofJson]
    simp only [Shape.read, readChoice, pick, lookup_nameOf]
  | _, .record name fields pack unpack pack_unpack, hregular, a, h => by
    obtain ⟨-, hfields⟩ := hregular
    obtain ⟨moved, hmoved, hperm⟩ :=
      hf.object (fields.write (unpack a)) (fields.keys_write hfields (unpack a)).2
    rw [Shape.write, hmoved]
    apply readValue_object_eq_ok_iff.2
    exact ⟨unpack a, Fields.ofMembers_of_perm hf fields hfields h hperm, pack_unpack a⟩

/-- The fields find what was written for them, wherever it stands. -/
theorem Fields.ofMembers_of_perm (hf : Json.Rearranges f) : {types : List Type} →
    (fields : Fields types) → fields.Regular → {row : Row types} → fields.Canonical row →
    {members : List (String × Json)} →
    members.Perm ((fields.write row).map fun m => (m.1, f m.2)) →
    fields.ofMembers members = .ok row
  | _, .nil, _, _, _, _, _ => rfl
  | _, .cons field shape rest, hregular, (a, row), h, members, hperm => by
    have hkeys := (rest.keys_write hregular.2.2.2 row).1
    obtain ⟨hnames, -, hshape, hrest⟩ := hregular
    rw [Fields.write] at hperm
    -- nothing that is written for the other fields belongs to this one
    have hothers : ∀ m ∈ (rest.write row).map fun m => (m.1, f m.2),
        field.answersTo m.1 = false := by
      intro m hm
      obtain ⟨n, hn, rfl⟩ := List.mem_map.1 hm
      exact hnames n.1 (hkeys n hn)
    rw [Fields.ofMembers_cons_eq_ok_iff]
    split at hperm
    · rename_i homits
      have hnone : ∀ m ∈ members, field.answersTo m.1 = false := fun m hm =>
        hothers m (hperm.mem_iff.1 hm)
      constructor
      · rw [Field.ofMembers, List.filter_eq_nil_iff.2 fun m hm => by simp [hnone m hm],
          Field.ofAnswering, Field.absent, field.absent_of_omits a homits]
      · rw [List.filter_eq_self.2 fun m hm => by simp [hnone m hm]]
        exact Fields.ofMembers_of_perm hf rest hrest h.2 hperm
    · rw [List.map_cons] at hperm
      have hnone : ((rest.write row).map fun m => (m.1, f m.2)).filter
          (fun m => field.answersTo m.1) = [] :=
        List.filter_eq_nil_iff.2 fun m hm => by simp [hothers m hm]
      have hall : ((rest.write row).map fun m => (m.1, f m.2)).filter
          (fun m => !field.answersTo m.1) = (rest.write row).map fun m => (m.1, f m.2) :=
        List.filter_eq_self.2 fun m hm => by simp [hothers m hm]
      have hmine := hperm.filter fun m => field.answersTo m.1
      have hleft := hperm.filter fun m => !field.answersTo m.1
      rw [List.filter_cons_of_pos (by simp [field.answersTo_name]), hnone, List.perm_singleton]
        at hmine
      rw [List.filter_cons_of_neg (by simp [field.answersTo_name]), hall] at hleft
      constructor
      · rw [Field.ofMembers, hmine]
        exact Shape.readValue_write hf shape hshape h.1
      · exact Fields.ofMembers_of_perm hf rest hrest h.2 hleft

end

end

/-- A canonical value is read back from the JSON value it is written as. -/
theorem Shape.readValue_toJson {α : Type} (shape : Shape α) (hregular : shape.Regular) {a : α}
    (h : shape.Canonical a) : shape.readValue (shape.toJson a) = .ok a :=
  Shape.readValue_write Json.rearranges_sorted shape hregular h

/-- What a value is written as reads back as the value, if the value was read. -/
def Shape.Normalizes {α : Type} (shape : Shape α) : Prop :=
  ∀ v a, shape.readValue v = .ok a → shape.readValue (shape.toJson a) = .ok a

/-- **Regular shapes have normal forms.** -/
theorem Shape.Regular.normalizes {α : Type} {shape : Shape α} (h : shape.Regular) :
    shape.Normalizes :=
  fun _ _ hread => shape.readValue_toJson h (shape.canonical_of_read .value h hread)

end DidLedger
