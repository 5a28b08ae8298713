/-
  DidLedger/Text/Split.lean
  =========================
  **Taking texts apart at a known place.**

  `after?` takes a fixed beginning off, `atFirst?` cuts at the first character
  of a kind and drops it, and `atEvery` cuts at each of them.  The lemmas say
  that the parts put together are the text again.
-/
namespace DidLedger.Text.Split

/-- What follows `lead` in a text that begins with it. -/
def after? : List Char → List Char → Option (List Char)
  | [], cs => some cs
  | _ :: _, [] => none
  | l :: lead, c :: cs => if l = c then after? lead cs else none

/-- What stands before and after the first character that satisfies `p`. -/
def atFirst? (p : Char → Bool) : List Char → Option (List Char × List Char)
  | [] => none
  | c :: cs =>
    if p c then some ([], cs)
    else (atFirst? p cs).map fun (before, rest) => (c :: before, rest)

/-- The parts of a text between the characters that satisfy `p`. -/
def atEvery (p : Char → Bool) : List Char → List (List Char)
  | [] => [[]]
  | c :: cs =>
    if p c then [] :: atEvery p cs
    else match atEvery p cs with
      | [] => [[c]]
      | part :: parts => (c :: part) :: parts

theorem after?_eq_some_iff {lead cs rest : List Char} :
    after? lead cs = some rest ↔ cs = lead ++ rest := by
  induction lead generalizing cs with
  | nil => simp [after?, eq_comm]
  | cons l lead ih =>
    cases cs with
    | nil => simp [after?]
    | cons c cs =>
      by_cases h : l = c
      · simp [after?, h, ih]
      · simp [after?, h, Ne.symm h]

theorem atFirst?_eq_none_iff {p : Char → Bool} {cs : List Char} :
    atFirst? p cs = none ↔ ∀ c ∈ cs, p c = false := by
  induction cs with
  | nil => simp [atFirst?]
  | cons c cs ih => by_cases h : p c = true <;> simp [atFirst?, h, ih]

theorem atFirst?_append {p : Char → Bool} {before rest : List Char} {c : Char}
    (hb : ∀ x ∈ before, p x = false) (hc : p c = true) :
    atFirst? p (before ++ c :: rest) = some (before, rest) := by
  induction before with
  | nil => simp [atFirst?, hc]
  | cons b before ih =>
    have h := ih fun x hx => hb x (List.mem_cons_of_mem _ hx)
    simp [atFirst?, hb b List.mem_cons_self, h]

theorem exists_of_atFirst? {p : Char → Bool} {cs before rest : List Char}
    (h : atFirst? p cs = some (before, rest)) :
    ∃ c, cs = before ++ c :: rest ∧ p c = true ∧ ∀ x ∈ before, p x = false := by
  induction cs generalizing before with
  | nil => simp [atFirst?] at h
  | cons d cs ih =>
    by_cases hd : p d = true
    · simp only [atFirst?, hd, if_true, Option.some.injEq, Prod.mk.injEq] at h
      obtain ⟨rfl, rfl⟩ := h
      exact ⟨d, rfl, hd, by simp⟩
    · rw [atFirst?, if_neg hd] at h
      obtain ⟨⟨b, r⟩, hbr, hs⟩ := Option.map_eq_some_iff.1 h
      simp only [Prod.mk.injEq] at hs
      obtain ⟨rfl, rfl⟩ := hs
      obtain ⟨c, rfl, hc, hb⟩ := ih hbr
      refine ⟨c, rfl, hc, fun x hx => ?_⟩
      rcases List.mem_cons.1 hx with rfl | hx
      · simpa using hd
      · exact hb x hx

theorem atEvery_of_forall {p : Char → Bool} {cs : List Char} (h : ∀ c ∈ cs, p c = false) :
    atEvery p cs = [cs] := by
  induction cs with
  | nil => rfl
  | cons c cs ih =>
    have hcs := ih fun x hx => h x (List.mem_cons_of_mem _ hx)
    simp [atEvery, h c List.mem_cons_self, hcs]

theorem atEvery_append {p : Char → Bool} {before rest : List Char} {c : Char}
    (hb : ∀ x ∈ before, p x = false) (hc : p c = true) :
    atEvery p (before ++ c :: rest) = before :: atEvery p rest := by
  induction before with
  | nil => simp [atEvery, hc]
  | cons b before ih =>
    have h := ih fun x hx => hb x (List.mem_cons_of_mem _ hx)
    simp [atEvery, hb b List.mem_cons_self, h]

end DidLedger.Text.Split
