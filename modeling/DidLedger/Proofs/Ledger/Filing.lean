/-
  DidLedger/Proofs/Ledger/Filing.lean
  ===================================
  **Every body is filed under a key of its own.**

  The key of a body is made of its type and of the number of bodies that are
  there already.  A type is any text, so it may hold colons and digits itself and
  keys of different types may look alike; but a number holds no colon, and so it
  can be read off a key behind the last one.

  In a filed store every key has a number below the number of bodies.  The next
  key is then one that is not there yet, whatever the type (`Filed.nextKey_notMem`),
  and filing a body takes no other body away (`Filed.bodies_addBody`).
-/
import DidLedger.Ledger.Store
import DidLedger.Proofs.Did.LastSegment

namespace DidLedger.Ledger.Store

/-! ### Keys -/

/-- The key of a body by its type and its number. -/
def key (kind : String) (number : Nat) : String :=
  kind ++ ":" ++ number.repr

theorem nextKey_eq_key (s : Store) (kind : String) : s.nextKey kind = key kind s.bodies.length :=
  rfl

theorem colon_notMem_repr (n : Nat) : ':' ∉ n.repr.toList := by
  intro hmem
  rw [Nat.toList_repr] at hmem
  have hdigit := Nat.isDigit_of_mem_toDigits (by decide) (by decide) hmem
  exact absurd hdigit (by decide)

/-- **Keys with different numbers are different, whatever their types.** -/
theorem number_eq_of_key_eq {kind kind' : String} {i j : Nat} (h : key kind i = key kind' j) :
    i = j := by
  have hsegments := congrArg Did.afterLastColon h
  rw [key, key, Did.afterLastColon_append (colon_notMem_repr i),
    Did.afterLastColon_append (colon_notMem_repr j)] at hsegments
  have hnumbers := congrArg (fun digits => Nat.ofDigitChars 10 digits.toList 0) hsegments
  simpa only [Nat.toList_repr, Nat.ofDigitChars_ten_toDigits] using hnumbers

/-! ### Filed stores -/

/-- Every body lies under a key whose number is below the number of bodies. -/
def Filed (s : Store) : Prop :=
  ∀ b ∈ s.bodies, ∃ kind number, b.1 = key kind number ∧ number < s.bodies.length

namespace Filed

variable {s t : Store}

theorem of_bodies_eq_nil (h : s.bodies = []) : s.Filed := by
  intro b hb
  rw [h] at hb
  cases hb

theorem of_bodies_eq (hs : s.Filed) (h : t.bodies = s.bodies) : t.Filed := by
  unfold Filed
  rw [h]
  exact hs

theorem nextKey_notMem (hs : s.Filed) (kind : String) :
    s.nextKey kind ∉ s.bodies.map Prod.fst := by
  intro hmem
  rcases List.mem_map.1 hmem with ⟨b, hb, heq⟩
  rcases hs b hb with ⟨other, number, hkey, hlt⟩
  rw [hkey, nextKey_eq_key] at heq
  exact absurd (number_eq_of_key_eq heq) (Nat.ne_of_lt hlt)

/-- **Filing a body adds it to the bodies that are there.** -/
theorem bodies_addBody (hs : s.Filed) (kind : String) (body : Json) :
    (s.addBody kind body).bodies = s.bodies ++ [(s.nextKey kind, body)] := by
  have hkeep : s.bodies.filter (fun b => b.1 != s.nextKey kind) = s.bodies := by
    apply List.filter_eq_self.2
    intro b hb
    rw [bne_iff_ne]
    intro heq
    exact hs.nextKey_notMem kind (heq ▸ List.mem_map_of_mem hb)
  rw [addBody, hkeep]

theorem addBody (hs : s.Filed) (kind : String) (body : Json) : (s.addBody kind body).Filed := by
  intro b hb
  rw [hs.bodies_addBody, List.mem_append, List.mem_singleton] at hb
  rw [hs.bodies_addBody, List.length_append, List.length_singleton]
  rcases hb with hold | rfl
  · rcases hs b hold with ⟨other, number, hkey, hlt⟩
    exact ⟨other, number, hkey, by omega⟩
  · exact ⟨kind, s.bodies.length, rfl, by omega⟩

theorem objects_addBody (hs : s.Filed) (kind : String) (body : Json) (other : String) :
    (s.addBody kind body).objects other = s.objects other ++ [body].filter (isOfType other) := by
  rw [objects, hs.bodies_addBody, List.map_append, List.filter_append]
  rfl

end Filed
end DidLedger.Ledger.Store
