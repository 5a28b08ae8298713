/-
  DidLedger/Proofs/Json/Sorted.lean
  =================================
  **Putting members in order, once and for all.**

  Sorting an object only moves its members if no key stands twice, and what has
  been sorted stays as it is.  The value of a tree is sorted in all its parts, so
  a part that was read as it is and written as it is does not change any more.

  What does not depend on the order of members is stated for every way to move them
  (`Rearranges`); to sort them is one, and to leave them where they are is another.
-/
import DidLedger.Json.Written
import DidLedger.Proofs.Json.WellFormed
import Mathlib.Data.List.Basic

namespace DidLedger.Json

variable {α : Type}

/-! ### Members -/

theorem mem_insertMember {key : String} {value : α} {members : List (String × α)} {m : String × α}
    (h : m ∈ insertMember key value members) : m = (key, value) ∨ m ∈ members := by
  induction members with
  | nil => exact .inl (List.mem_singleton.1 h)
  | cons n members ih =>
    obtain ⟨k, v⟩ := n
    rw [insertMember] at h
    split at h
    · exact (List.mem_cons.1 h)
    · split at h
      · rcases List.mem_cons.1 h with rfl | h
        · exact .inl rfl
        · exact .inr (List.mem_cons_of_mem _ h)
      · rcases List.mem_cons.1 h with rfl | h
        · exact .inr List.mem_cons_self
        · rcases ih h with rfl | h
          · exact .inl rfl
          · exact .inr (List.mem_cons_of_mem _ h)

theorem pairwise_insertMember {members : List (String × α)}
    (h : members.Pairwise fun m n => m.1 < n.1) (key : String) (value : α) :
    (insertMember key value members).Pairwise fun m n => m.1 < n.1 := by
  induction members with
  | nil => exact List.pairwise_singleton _ _
  | cons n members ih =>
    obtain ⟨k, v⟩ := n
    obtain ⟨hfirst, hrest⟩ := List.pairwise_cons.1 h
    rw [insertMember]
    split
    · rename_i hlt
      refine List.pairwise_cons.2 ⟨?_, h⟩
      intro m hm
      rcases List.mem_cons.1 hm with rfl | hm
      · exact hlt
      · exact String.lt_trans hlt (hfirst m hm)
    · rename_i hnlt
      split
      · rename_i heq
        subst heq
        exact List.pairwise_cons.2 ⟨hfirst, hrest⟩
      · rename_i hne
        refine List.pairwise_cons.2 ⟨?_, ih hrest⟩
        intro m hm
        rcases mem_insertMember hm with rfl | hm
        · apply String.not_le.1
          intro hle
          exact hne (String.le_antisymm hle (String.not_lt.1 hnlt))
        · exact hfirst m hm

theorem perm_insertMember {key : String} {members : List (String × α)}
    (h : key ∉ members.map Prod.fst) (value : α) :
    (insertMember key value members).Perm ((key, value) :: members) := by
  induction members with
  | nil => exact .refl _
  | cons n members ih =>
    obtain ⟨k, v⟩ := n
    rw [List.map_cons, List.mem_cons, not_or] at h
    rw [insertMember]
    split
    · exact .refl _
    · rw [if_neg h.1]
      exact ((ih h.2).cons _).trans (.swap _ _ _)

/-- Sorted members are in ascending order, and they are members as before. -/
theorem sortMembers_spec (members : List (String × α)) :
    (sortMembers members).Pairwise (fun m n => m.1 < n.1) ∧
      ∀ m ∈ sortMembers members, m ∈ members := by
  have hfold : ∀ done : List (String × α), done.Pairwise (fun m n => m.1 < n.1) →
      let all := members.foldl (fun sorted m => insertMember m.1 m.2 sorted) done
      all.Pairwise (fun m n => m.1 < n.1) ∧ ∀ m ∈ all, m ∈ done ∨ m ∈ members := by
    induction members with
    | nil => exact fun done hdone => ⟨hdone, fun m hm => .inl hm⟩
    | cons n members ih =>
      intro done hdone
      obtain ⟨hascending, hmem⟩ :=
        ih (insertMember n.1 n.2 done) (pairwise_insertMember hdone n.1 n.2)
      refine ⟨hascending, ?_⟩
      intro m hm
      rcases hmem m hm with hm | hm
      · rcases mem_insertMember hm with rfl | hm
        · exact .inr List.mem_cons_self
        · exact .inl hm
      · exact .inr (List.mem_cons_of_mem _ hm)
  obtain ⟨hascending, hmem⟩ := hfold [] .nil
  refine ⟨hascending, ?_⟩
  intro m hm
  rcases hmem m hm with hm | hm
  · cases hm
  · exact hm

/-- Where no key stands twice, sorting only moves the members. -/
theorem perm_sortMembers {members : List (String × α)} (h : (members.map Prod.fst).Nodup) :
    (sortMembers members).Perm members := by
  have hfold : ∀ done : List (String × α), ((done ++ members).map Prod.fst).Nodup →
      (members.foldl (fun sorted m => insertMember m.1 m.2 sorted) done).Perm
        (done ++ members) := by
    clear h
    induction members with
    | nil =>
      intro done _
      rw [List.append_nil]
      exact .refl _
    | cons m members ih =>
      intro done hdone
      have hmove : (done ++ m :: members).Perm (m :: done ++ members) := List.perm_middle
      have hkeys : ((m :: done ++ members).map Prod.fst).Nodup := (hmove.map _).nodup_iff.1 hdone
      have hfirst : m.1 ∉ done.map Prod.fst := by
        intro hm
        rw [List.cons_append, List.map_cons, List.nodup_cons, List.map_append] at hkeys
        exact hkeys.1 (List.mem_append_left _ hm)
      have hstep := (perm_insertMember hfirst m.2).append_right members
      rw [List.foldl_cons]
      exact ((ih _ ((hstep.map _).nodup_iff.2 hkeys)).trans hstep).trans hmove.symm
  exact hfold [] h

theorem sortMembers_sortMembers (members : List (String × α)) :
    sortMembers (sortMembers members) = sortMembers members :=
  sortMembers_of_ascending (sortMembers_spec members).1

/-! ### Values -/

theorem sortedElements_eq_map (elements : List Json) :
    sortedElements elements = elements.map sorted := by
  induction elements with
  | nil => rfl
  | cons e es ih => rw [sortedElements, ih, List.map_cons]

theorem sortedMembers_eq_map (members : List (String × Json)) :
    sortedMembers members = members.map fun m => (m.1, m.2.sorted) := by
  induction members with
  | nil => rfl
  | cons m ms ih => rw [sortedMembers, ih, List.map_cons]

theorem sorted_ofMembers {members : List (String × Json)} (h : ∀ m ∈ members, m.2.sorted = m.2) :
    (ofMembers members).sorted = ofMembers members := by
  have hvalues : sortedMembers (sortMembers members) = sortMembers members := by
    rw [sortedMembers_eq_map]
    conv_rhs => rw [← List.map_id (sortMembers members)]
    apply List.map_congr_left
    intro m hm
    rw [h m ((sortMembers_spec members).2 m hm)]
    rfl
  rw [ofMembers, sorted, hvalues, sortMembers_sortMembers]

mutual

theorem WellFormed.sorted_eq : (v : Json) → v.WellFormed → v.sorted = v
  | .null, _ => rfl
  | .bool _, _ => rfl
  | .number _, _ => rfl
  | .string _, _ => rfl
  | .array elements, h => congrArg Json.array (WellFormedElements.sorted_eq elements h)
  | .object members, h => by
    rw [sorted, WellFormedMembers.sorted_eq members h.2, sortMembers_of_ascending h.1]

theorem WellFormedElements.sorted_eq : (elements : List Json) → WellFormedElements elements →
    sortedElements elements = elements
  | [], _ => rfl
  | e :: es, h => by
    rw [sortedElements, WellFormed.sorted_eq e h.1, WellFormedElements.sorted_eq es h.2]

theorem WellFormedMembers.sorted_eq : (members : List (String × Json)) →
    WellFormedMembers members → sortedMembers members = members
  | [], _ => rfl
  | (k, v) :: ms, h => by
    rw [sortedMembers, WellFormed.sorted_eq v h.1, WellFormedMembers.sorted_eq ms h.2]

end

namespace Written

mutual

/-- **The value of a tree is sorted.** -/
theorem sorted_of_value? : (w : Written) → {j : Json} → w.value? = some j → j.sorted = j
  | .null, _, h => by cases h; rfl
  | .bool b, _, h => by cases h; rfl
  | .number n, _, h => by cases h; rfl
  | .string s, _, h => by cases h; rfl
  | .unreadable, _, h => by cases h
  | .array elements, j, h => by
    rw [value?, Option.map_eq_some_iff] at h
    obtain ⟨values, hvalues, rfl⟩ := h
    rw [sorted, sorted_of_elementValues? elements hvalues]
  | .object members, j, h => by
    rw [value?, Option.map_eq_some_iff] at h
    obtain ⟨values, hvalues, rfl⟩ := h
    exact sorted_ofMembers (sorted_of_memberValues? members hvalues)

theorem sorted_of_elementValues? : (elements : List Written) → {values : List Json} →
    elementValues? elements = some values → sortedElements values = values
  | [], _, h => by cases h; rfl
  | e :: es, values, h => by
    rw [elementValues?] at h
    split at h
    · rename_i v vs hv hvs
      cases h
      rw [sortedElements, sorted_of_value? e hv, sorted_of_elementValues? es hvs]
    · cases h

theorem sorted_of_memberValues? : (members : List (Option String × Written)) →
    {values : List (String × Json)} → memberValues? members = some values →
    ∀ m ∈ values, m.2.sorted = m.2
  | [], _, h => by
    cases h
    intro m hm
    cases hm
  | (none, w) :: ms, values, h => by cases h
  | (some key, w) :: ms, values, h => by
    simp only [memberValues?] at h
    split at h
    · rename_i k v vs hkey hv hvs
      cases h
      intro m hm
      rcases List.mem_cons.1 hm with rfl | hm
      · exact sorted_of_value? w hv
      · exact sorted_of_memberValues? ms hvs m hm
    · cases h

end

mutual

theorem value?_ofJson : (j : Json) → (ofJson j).value? = some j.sorted
  | .null => rfl
  | .bool _ => rfl
  | .number _ => rfl
  | .string _ => rfl
  | .array elements => by rw [ofJson, value?, elementValues?_ofElements elements]; rfl
  | .object members => by rw [ofJson, value?, memberValues?_ofMembers members]; rfl

theorem elementValues?_ofElements : (elements : List Json) →
    elementValues? (ofElements elements) = some (sortedElements elements)
  | [] => rfl
  | e :: es => by
    simp only [ofElements, elementValues?, value?_ofJson e, elementValues?_ofElements es,
      sortedElements]

theorem memberValues?_ofMembers : (members : List (String × Json)) →
    memberValues? (ofMembers members) = some (sortedMembers members)
  | [] => rfl
  | (k, v) :: ms => by
    simp only [ofMembers, memberValues?, value?_ofJson v, memberValues?_ofMembers ms,
      sortedMembers]

end

end Written

/-! ### Orders of members -/

/-- Moves members about within their objects, and changes nothing else. -/
structure Rearranges (f : Json → Json) : Prop where
  null : f .null = .null
  string : ∀ s, f (.string s) = .string s
  number : ∀ n, f (.number n) = .number n
  array : ∀ elements, f (.array elements) = .array (elements.map f)
  object : ∀ members : List (String × Json), (members.map Prod.fst).Nodup →
    ∃ moved, f (.object members) = .object moved ∧ moved.Perm (members.map fun m => (m.1, f m.2))
  sorted : ∀ v, (f v).sorted = v.sorted

theorem rearranges_id : Rearranges id where
  null := rfl
  string _ := rfl
  number _ := rfl
  array elements := by rw [List.map_id, id]
  object members _ := ⟨members, rfl, .of_eq (List.map_id members).symm⟩
  sorted _ := rfl

theorem rearranges_sorted : Rearranges sorted where
  null := rfl
  string _ := rfl
  number _ := rfl
  array elements := by rw [Json.sorted, sortedElements_eq_map]
  object members hkeys := by
    refine ⟨_, rfl, ?_⟩
    rw [← sortedMembers_eq_map]
    apply perm_sortMembers
    rwa [sortedMembers_eq_map, List.map_map]
  sorted v := Written.sorted_of_value? (.ofJson v) (Written.value?_ofJson v)

end DidLedger.Json
