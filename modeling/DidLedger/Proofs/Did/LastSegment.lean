/-
  DidLedger/Proofs/Did/LastSegment.lean
  =====================================
  **What stands behind the last colon of a text.**

  The last segment holds no colon, and a text is its own last segment exactly
  when it holds none.  A text that is put together from a front, a colon and a
  segment without one is taken apart there again, whatever the front holds.
-/
import DidLedger.Did
import DidLedger.Proofs.Text.Front

namespace DidLedger.Did

open DidLedger.Text

theorem takeWhile_ne_colon {cs : List Char} (h : ':' ∉ cs) (rest : List Char) :
    (cs ++ ':' :: rest).takeWhile (· ≠ ':') = cs := by
  apply takeWhile_append_of_head
  · intro c hc
    rw [decide_eq_true_eq]
    rintro rfl
    exact h hc
  · intro c hc
    cases hc
    rfl

theorem afterLastColon_of_notMem {s : String} (h : ':' ∉ s.toList) : afterLastColon s = s := by
  have hall : s.toList.reverse.takeWhile (· ≠ ':') = s.toList.reverse := by
    apply List.takeWhile_eq_self_iff.2
    intro c hc
    rw [decide_eq_true_eq]
    rintro rfl
    exact h (List.mem_reverse.1 hc)
  rw [afterLastColon, hall, List.reverse_reverse, String.ofList_toList]

theorem afterLastColon_append {last : String} (h : ':' ∉ last.toList) (front : String) :
    afterLastColon (front ++ ":" ++ last) = last := by
  have hreverse : (front ++ ":" ++ last).toList.reverse =
      last.toList.reverse ++ ':' :: front.toList.reverse := by
    simp
  have hnot : ':' ∉ last.toList.reverse := fun hmem => h (List.mem_reverse.1 hmem)
  rw [afterLastColon, hreverse, takeWhile_ne_colon hnot, List.reverse_reverse,
    String.ofList_toList]

/-- The last segment holds no colon and stands behind the last colon. -/
theorem exists_front_of_mem {s : String} (h : ':' ∈ s.toList) :
    ':' ∉ (afterLastColon s).toList ∧ ∃ front, s = front ++ ":" ++ afterLastColon s := by
  -- the last colon is the first one from behind
  obtain ⟨last, front, hcut, hlast⟩ := List.eq_append_cons_of_mem (List.mem_reverse.2 h)
  have hsegment : (afterLastColon s).toList = last.reverse := by
    rw [afterLastColon, String.toList_ofList, hcut, takeWhile_ne_colon hlast]
  refine ⟨?_, String.ofList front.reverse, ?_⟩
  · rw [hsegment, List.mem_reverse]
    exact hlast
  · have htext : s.toList = front.reverse ++ [':'] ++ last.reverse := by
      rw [← List.reverse_reverse s.toList, hcut]
      simp
    rw [← String.toList_inj, String.toList_append, String.toList_append, String.toList_ofList,
      hsegment]
    exact htext

theorem notMem_afterLastColon (s : String) : ':' ∉ (afterLastColon s).toList := by
  by_cases h : ':' ∈ s.toList
  · exact (exists_front_of_mem h).1
  · rw [afterLastColon_of_notMem h]
    exact h

theorem afterLastColon_eq_self_iff {s : String} : afterLastColon s = s ↔ ':' ∉ s.toList := by
  constructor
  · intro h
    have hnot := notMem_afterLastColon s
    rw [h] at hnot
    exact hnot
  · exact afterLastColon_of_notMem

end DidLedger.Did
