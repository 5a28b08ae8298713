/-
  DidLedger/Proofs/Text/Front.lean
  ================================
  **Where the front of a list ends.**

  Readers take characters from the front of a text as long as they are of a kind.
  What they take ends where the first character of another kind stands, so two
  texts that were put together are taken apart again if the second begins with
  such a character.
-/
import Mathlib.Data.List.TakeWhile

namespace DidLedger.Text

variable {α : Type} {p : α → Bool} {front rest : List α}

theorem takeWhile_append_of_head (hfront : ∀ a ∈ front, p a = true)
    (hrest : ∀ a ∈ rest.head?, p a = false) : (front ++ rest).takeWhile p = front := by
  rw [List.takeWhile_append_of_pos hfront]
  cases rest with
  | nil => rw [List.takeWhile_nil, List.append_nil]
  | cons a rest => rw [List.takeWhile_cons_of_neg (by simp [hrest a rfl]), List.append_nil]

theorem dropWhile_of_head (hrest : ∀ a ∈ rest.head?, p a = false) : rest.dropWhile p = rest := by
  cases rest with
  | nil => rfl
  | cons a rest => exact List.dropWhile_cons_of_neg (by simp [hrest a rfl])

theorem dropWhile_append_of_head (hfront : ∀ a ∈ front, p a = true)
    (hrest : ∀ a ∈ rest.head?, p a = false) : (front ++ rest).dropWhile p = rest := by
  rw [List.dropWhile_append_of_pos hfront, dropWhile_of_head hrest]

/-! ### Something behind the end -/

variable {a : α}

theorem takeWhile_append_cons (ha : p a = false) (front rest : List α) :
    (front ++ a :: rest).takeWhile p = front.takeWhile p := by
  have hneg : ¬p a = true := by simp [ha]
  rw [List.takeWhile_append, List.takeWhile_cons_of_neg hneg, List.append_nil]
  split
  · rename_i hlength
    exact ((List.takeWhile_prefix p).eq_of_length hlength).symm
  · rfl

theorem dropWhile_append_cons (ha : p a = false) (front rest : List α) :
    (front ++ a :: rest).dropWhile p = front.dropWhile p ++ a :: rest := by
  have hneg : ¬p a = true := by simp [ha]
  rw [List.dropWhile_append, List.dropWhile_cons_of_neg hneg]
  cases hfront : front.dropWhile p with
  | nil => rfl
  | cons b bs => rfl

end DidLedger.Text
