/-
  DidLedger/Proofs/Json/WellFormed.lean
  =====================================
  **What every value that the program handles satisfies.**

  The type of JSON values also has values that no text and no map stands for: an
  object may hold a key twice or its members in any order, and an integer may
  have more than 64 bits.  A well-formed value has neither: its members are in
  strictly ascending order of their keys and its integers fit 64 bits, with or
  without a sign.
-/
import DidLedger.Json.Value

namespace DidLedger.Json

mutual

/-- Members stand in ascending order, each key once, and integers fit 64 bits. -/
def WellFormed : Json → Prop
  | .number (.integer n) => -((wordLimit / 2 : Nat) : Int) ≤ n ∧ n < (wordLimit : Int)
  | .array elements => WellFormedElements elements
  | .object members => members.Pairwise (fun m n => m.1 < n.1) ∧ WellFormedMembers members
  | _ => True

/-- All elements are well formed. -/
def WellFormedElements : List Json → Prop
  | [] => True
  | e :: es => e.WellFormed ∧ WellFormedElements es

/-- The values of all members are well formed. -/
def WellFormedMembers : List (String × Json) → Prop
  | [] => True
  | (_, v) :: ms => v.WellFormed ∧ WellFormedMembers ms

end

mutual

/-- Integers fit 64 bits; the members may stand in any order. -/
def Fits : Json → Prop
  | .number (.integer n) => -((wordLimit / 2 : Nat) : Int) ≤ n ∧ n < (wordLimit : Int)
  | .array elements => FitsElements elements
  | .object members => FitsMembers members
  | _ => True

/-- The integers of all elements fit. -/
def FitsElements : List Json → Prop
  | [] => True
  | e :: es => e.Fits ∧ FitsElements es

/-- The integers of all members fit. -/
def FitsMembers : List (String × Json) → Prop
  | [] => True
  | (_, v) :: ms => v.Fits ∧ FitsMembers ms

end

mutual

theorem WellFormed.fits : (v : Json) → v.WellFormed → v.Fits
  | .null, _ => trivial
  | .bool _, _ => trivial
  | .number (.integer _), h => h
  | .number (.real _), _ => trivial
  | .string _, _ => trivial
  | .array elements, h => WellFormedElements.fits elements h
  | .object members, h => WellFormedMembers.fits members h.2

theorem WellFormedElements.fits : (elements : List Json) → WellFormedElements elements →
    FitsElements elements
  | [], _ => trivial
  | e :: es, h => ⟨WellFormed.fits e h.1, WellFormedElements.fits es h.2⟩

theorem WellFormedMembers.fits : (members : List (String × Json)) → WellFormedMembers members →
    FitsMembers members
  | [], _ => trivial
  | (_, v) :: ms, h => ⟨WellFormed.fits v h.1, WellFormedMembers.fits ms h.2⟩

end

theorem WellFormedMembers.of_lookup {members : List (String × Json)} {key : String} {v : Json}
    (h : WellFormedMembers members) (hlookup : members.lookup key = some v) : v.WellFormed := by
  induction members with
  | nil => cases hlookup
  | cons m members ih =>
    rw [List.lookup_cons] at hlookup
    split at hlookup
    · rw [Option.some.injEq] at hlookup
      exact hlookup ▸ h.1
    · exact ih h.2 hlookup

namespace WellFormed

/-- No key stands twice in an object. -/
theorem nodup_keys {members : List (String × Json)} (h : (Json.object members).WellFormed) :
    (members.map Prod.fst).Nodup := by
  rw [List.Nodup, List.pairwise_map]
  exact h.1.imp String.ne_of_lt

theorem member {v : Json} (h : v.WellFormed) (key : String) : (v.member key).WellFormed := by
  cases v with
  | object members =>
    cases hlookup : members.lookup key with
    | none => simp [Json.member, hlookup, WellFormed]
    | some v =>
      have hv := WellFormedMembers.of_lookup h.2 hlookup
      simpa [Json.member, hlookup] using hv
  | _ => trivial

end WellFormed

/-! ### Members in order stay in order -/

variable {α : Type}

theorem insertMember_of_forall_lt {key : String} {value : α} {members : List (String × α)}
    (h : ∀ m ∈ members, m.1 < key) :
    insertMember key value members = members ++ [(key, value)] := by
  induction members with
  | nil => rfl
  | cons m members ih =>
    have hlt : m.1 < key := h m List.mem_cons_self
    rw [insertMember, if_neg (String.lt_asymm hlt), if_neg (String.ne_of_lt hlt).symm,
      ih fun n hn => h n (List.mem_cons_of_mem _ hn), List.cons_append]

/-- Sorting leaves members alone that are in ascending order. -/
theorem sortMembers_of_ascending {members : List (String × α)}
    (h : members.Pairwise fun m n => m.1 < n.1) : sortMembers members = members := by
  have hfold : ∀ done : List (String × α), (done ++ members).Pairwise (fun m n => m.1 < n.1) →
      members.foldl (fun sorted m => insertMember m.1 m.2 sorted) done = done ++ members := by
    clear h
    induction members with
    | nil => intro done _; simp
    | cons m members ih =>
      intro done hdone
      have hlast : ∀ n ∈ done, n.1 < m.1 := fun n hn =>
        (List.pairwise_append.1 hdone).2.2 n hn m List.mem_cons_self
      have hsplit : done ++ m :: members = (done ++ [m]) ++ members := by simp
      rw [List.foldl_cons, insertMember_of_forall_lt hlast, hsplit]
      exact ih (done ++ [m]) (hsplit ▸ hdone)
  exact hfold [] h

end DidLedger.Json
