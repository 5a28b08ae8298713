/-
  DidLedger/Proofs/Document/Authentication.lean
  =============================================
  **Which key a document authenticates with, and when that changes.**

  The references are gone through in order.  One that no method answers to is passed
  over, and the first one that is not passed over selects the earliest method of its
  id (`Selects`).

  A document under construction only grows at its ends.  So a method that was selected
  stays the earliest of its id and the selecting reference keeps its place; what can
  still change the selection is a method for a reference that was passed over.
  `Selects.extend_iff` says that nothing else does, and that this always does.
-/
import DidLedger.Document
import DidLedger.Proofs.Text.Front

namespace DidLedger.Document

open DidLedger.Text

variable {d : Document} {id : String} {m : VerificationMethod}

/-! ### Looking up -/

/-- No method answers to a reference. -/
def Dangling (d : Document) (id : String) : Prop :=
  ∀ m ∈ d.verificationMethod, m.id ≠ id

/-- A method has an id, and none in front of it has the same. -/
def Earliest (d : Document) (id : String) (m : VerificationMethod) : Prop :=
  m.id = id ∧ ∃ before after, d.verificationMethod = before ++ m :: after ∧
    ∀ other ∈ before, other.id ≠ id

theorem Earliest.mem (h : d.Earliest id m) : m ∈ d.verificationMethod := by
  obtain ⟨-, before, after, hmethods, -⟩ := h
  rw [hmethods]
  exact List.mem_append_right before List.mem_cons_self

theorem findMethod?_eq_none_iff : d.findMethod? id = none ↔ d.Dangling id := by
  simp only [findMethod?, List.find?_eq_none, beq_iff_eq]
  rfl

theorem findMethod?_eq_some_iff : d.findMethod? id = some m ↔ d.Earliest id m := by
  simp only [findMethod?, List.find?_eq_some_iff_append, beq_iff_eq, Bool.not_eq_true',
    beq_eq_false_iff_ne]
  rfl

/-- A reference selects a method: the references in front of it dangle, and the method
    is the earliest of its id. -/
structure Selects (d : Document) (front : List String) (id : String) (m : VerificationMethod) :
    Prop where
  exists_back : ∃ back, d.authentication = front ++ id :: back
  dangling : ∀ r ∈ front, d.Dangling r
  earliest : d.Earliest id m

theorem exists_selects_iff :
    (∃ front id, d.Selects front id m) ↔ ∃ front id back,
      d.authentication = front ++ id :: back ∧ (∀ r ∈ front, d.Dangling r) ∧ d.Earliest id m := by
  constructor
  · rintro ⟨front, id, ⟨back, hback⟩, hdangling, hearliest⟩
    exact ⟨front, id, back, hback, hdangling, hearliest⟩
  · rintro ⟨front, id, back, hback, hdangling, hearliest⟩
    exact ⟨front, id, ⟨back, hback⟩, hdangling, hearliest⟩

theorem authenticationKey?_eq_some_iff :
    d.authenticationKey? = some m ↔ ∃ front id, d.Selects front id m := by
  simp only [exists_selects_iff, authenticationKey?, List.findSome?_eq_some_iff,
    findMethod?_eq_some_iff, findMethod?_eq_none_iff, and_comm]

theorem authenticationKey?_eq_none_iff :
    d.authenticationKey? = none ↔ ∀ r ∈ d.authentication, d.Dangling r := by
  simp only [authenticationKey?, List.findSome?_eq_none_iff, findMethod?_eq_none_iff]

/-- The selecting reference does not occur in front of itself, since it does not dangle. -/
theorem Selects.notMem {front : List String} (h : d.Selects front id m) : id ∉ front :=
  fun hmem => h.dangling id hmem m h.earliest.mem h.earliest.1

/-- The references in front of the first one of an id. -/
theorem takeWhile_authentication {front back : List String}
    (hback : d.authentication = front ++ id :: back) (hid : id ∉ front) :
    d.authentication.takeWhile (fun r => decide (r ≠ id)) = front := by
  rw [hback]
  apply takeWhile_append_of_head
  · intro r hr
    rw [decide_eq_true_eq]
    rintro rfl
    exact hid hr
  · intro r hr
    cases hr
    simp

/-! ### Growing -/

/-- What a step adds to the methods. -/
def Step.methods : Step → List VerificationMethod
  | .verificationMethod m => [m]
  | _ => []

/-- What a step adds to the references. -/
def Step.references : Step → List String
  | .authentication id => [id]
  | _ => []

theorem mem_methods_iff {steps : List Step} :
    m ∈ steps.flatMap Step.methods ↔ .verificationMethod m ∈ steps := by
  rw [List.mem_flatMap]
  constructor
  · rintro ⟨step, hstep, hm⟩
    cases step with
    | verificationMethod method =>
      rw [List.mem_singleton.1 hm]
      exact hstep
    | context context => cases hm
    | authentication id => cases hm
  · intro hstep
    exact ⟨_, hstep, List.mem_singleton_self m⟩

theorem verificationMethod_step (d : Document) (step : Step) :
    (d.step step).verificationMethod = d.verificationMethod ++ step.methods := by
  cases step with
  | verificationMethod method => rfl
  | context context => exact (List.append_nil _).symm
  | authentication id => exact (List.append_nil _).symm

theorem authentication_step (d : Document) (step : Step) :
    (d.step step).authentication = d.authentication ++ step.references := by
  cases step with
  | authentication id => rfl
  | context context => exact (List.append_nil _).symm
  | verificationMethod method => exact (List.append_nil _).symm

theorem id_step (d : Document) (step : Step) : (d.step step).id = d.id := by
  cases step <;> rfl

theorem extend_cons (d : Document) (step : Step) (steps : List Step) :
    d.extend (step :: steps) = (d.step step).extend steps := rfl

theorem verificationMethod_extend (d : Document) (steps : List Step) :
    (d.extend steps).verificationMethod =
      d.verificationMethod ++ steps.flatMap Step.methods := by
  induction steps generalizing d with
  | nil => exact (List.append_nil _).symm
  | cons step steps ih =>
    rw [extend_cons, ih, verificationMethod_step, List.append_assoc, List.flatMap_cons]

theorem authentication_extend (d : Document) (steps : List Step) :
    (d.extend steps).authentication = d.authentication ++ steps.flatMap Step.references := by
  induction steps generalizing d with
  | nil => exact (List.append_nil _).symm
  | cons step steps ih =>
    rw [extend_cons, ih, authentication_step, List.append_assoc, List.flatMap_cons]

theorem id_extend (d : Document) (steps : List Step) : (d.extend steps).id = d.id := by
  induction steps generalizing d with
  | nil => rfl
  | cons step steps ih => rw [extend_cons, ih, id_step]

/-! ### What growing leaves as it is -/

theorem dangling_extend_iff {steps : List Step} :
    (d.extend steps).Dangling id ↔
      d.Dangling id ∧ ∀ added, .verificationMethod added ∈ steps → added.id ≠ id := by
  simp only [Dangling, verificationMethod_extend, List.forall_mem_append, mem_methods_iff]

theorem Earliest.extend (h : d.Earliest id m) (steps : List Step) :
    (d.extend steps).Earliest id m := by
  obtain ⟨hid, before, after, hmethods, hbefore⟩ := h
  refine ⟨hid, before, after ++ steps.flatMap Step.methods, ?_, hbefore⟩
  rw [verificationMethod_extend, hmethods, List.append_assoc, List.cons_append]

theorem Selects.exists_back_extend {front : List String} (h : d.Selects front id m)
    (steps : List Step) : ∃ back, (d.extend steps).authentication = front ++ id :: back := by
  obtain ⟨back, hback⟩ := h.exists_back
  refine ⟨back ++ steps.flatMap Step.references, ?_⟩
  rw [authentication_extend, hback, List.append_assoc, List.cons_append]

/-- **A selection stands as long as no method is added for a reference that was passed
    over**, and it falls with such a method. -/
theorem Selects.extend_iff {front : List String} (h : d.Selects front id m) (steps : List Step) :
    (d.extend steps).authenticationKey? = some m ↔
      ∀ added, .verificationMethod added ∈ steps → added.id ∉ front := by
  rw [authenticationKey?_eq_some_iff]
  constructor
  · rintro ⟨front', id', hlater⟩ added hadded
    obtain rfl : id = id' := h.earliest.1.symm.trans hlater.earliest.1
    -- the same references are passed over, so none of them has a method by now
    obtain ⟨back, hback⟩ := h.exists_back_extend steps
    obtain ⟨back', hback'⟩ := hlater.exists_back
    obtain rfl : front = front' := by
      rw [← takeWhile_authentication hback h.notMem,
        ← takeWhile_authentication hback' hlater.notMem]
    intro hmem
    exact (dangling_extend_iff.1 (hlater.dangling added.id hmem)).2 added hadded rfl
  · intro hadded
    refine ⟨front, id, h.exists_back_extend steps, ?_, h.earliest.extend steps⟩
    intro r hr
    refine dangling_extend_iff.2 ⟨h.dangling r hr, ?_⟩
    rintro added hmem rfl
    exact hadded added hmem hr

/-- **The authentication key is the earliest method of the first reference that has one,
    and it stays so while the document grows**, unless a method is added for a reference
    in front of that one. -/
theorem authenticationKey?_exact_and_stable (d : Document) :
    (∀ m, d.authenticationKey? = some m ↔ ∃ front id back,
      d.authentication = front ++ id :: back ∧ (∀ r ∈ front, d.Dangling r) ∧ d.Earliest id m) ∧
    (d.authenticationKey? = none ↔ ∀ r ∈ d.authentication, d.Dangling r) ∧
    ∀ front id back m, d.authentication = front ++ id :: back → (∀ r ∈ front, d.Dangling r) →
      d.Earliest id m → ∀ steps : List Step,
        (d.extend steps).authenticationKey? = some m ↔
          ∀ added, .verificationMethod added ∈ steps → added.id ∉ front := by
  refine ⟨?_, authenticationKey?_eq_none_iff, ?_⟩
  · intro m
    rw [authenticationKey?_eq_some_iff, exists_selects_iff]
  · intro front id back m hback hdangling hearliest
    exact Selects.extend_iff ⟨⟨back, hback⟩, hdangling, hearliest⟩

/-- Two methods of one id, a reference to none in front of it, and the same one again
    behind. -/
def twice : Document where
  context := [baseContext]
  id := "did:testnet:demo123"
  verificationMethod := [⟨"#a", .ed25519, "did:testnet:demo123", "A"⟩,
    ⟨"#b", .ed25519, "did:testnet:demo123", "B"⟩, ⟨"#b", .ed25519, "did:testnet:demo123", "C"⟩]
  authentication := ["#lost", "#b", "#a", "#lost"]

/-- More methods for `#b` and more references leave the key alone; a method for `#lost`
    does not. -/
theorem authenticationKey?_exact_and_stable_twice :
    let b : VerificationMethod := ⟨"#b", .ed25519, "did:testnet:demo123", "B"⟩
    let again : VerificationMethod := ⟨"#b", .ed25519, "did:testnet:demo123", "D"⟩
    let lost : VerificationMethod := ⟨"#lost", .ed25519, "did:testnet:demo123", "E"⟩
    twice.authentication = ["#lost"] ++ "#b" :: ["#a", "#lost"] ∧
      (∀ r ∈ ["#lost"], twice.Dangling r) ∧ twice.Earliest "#b" b ∧
      (twice.extend [.verificationMethod again, .authentication "#a"]).authenticationKey? =
        some b ∧
      (twice.extend [.authentication "#a", .verificationMethod lost]).authenticationKey? ≠
        some b := by
  intro b again lost
  have hback : twice.authentication = ["#lost"] ++ "#b" :: ["#a", "#lost"] := rfl
  have hdangling : ∀ r ∈ ["#lost"], twice.Dangling r := by
    unfold Dangling
    decide
  have hearliest : twice.Earliest "#b" b :=
    ⟨rfl, [⟨"#a", .ed25519, "did:testnet:demo123", "A"⟩],
      [⟨"#b", .ed25519, "did:testnet:demo123", "C"⟩], rfl, by decide⟩
  have hstable := (authenticationKey?_exact_and_stable twice).2.2 ["#lost"] "#b" ["#a", "#lost"] b
    hback hdangling hearliest
  refine ⟨hback, hdangling, hearliest, (hstable _).2 ?_, ?_⟩
  · intro added hadded
    simp only [List.mem_cons, Step.verificationMethod.injEq, reduceCtorEq, List.not_mem_nil,
      or_false] at hadded
    rw [hadded]
    decide
  · intro hkey
    exact (hstable _).1 hkey lost (by simp) (by decide)

end DidLedger.Document
