/-
  DidLedger/Proofs/Service/Plan.lean
  ==================================
  **When an operation has a plan, and which one.**

  Each planner is described by one equivalence: the plan exists exactly under the
  stated conditions on the input and the networks, and it is the stated one.
  Nothing else about the planners is used later.

  A network that was selected, by name or as the default, is also the one that
  its own name finds (`find_of_select`): a name is looked up from the front, and
  the default network stands at the front.
-/
import DidLedger.Proofs.Did.Grammar
import DidLedger.Proofs.Except
import DidLedger.Service.Plan

namespace DidLedger

open DidLedger.Ledger DidLedger.Credential

/-! ### Networks -/

namespace Registry

theorem find_eq_ok_iff {registry : Registry} {name : String} {network : Network} :
    registry.find name = .ok network ↔
      registry.networks.find? (fun n => n.name == name) = some network := by
  unfold find
  split
  · rename_i heq
    rw [heq, Except.ok.injEq, Option.some.injEq]
  · rename_i heq
    simp [heq]

theorem mem_of_find {registry : Registry} {name : String} {network : Network}
    (h : registry.find name = .ok network) : network ∈ registry.networks :=
  List.mem_of_find?_eq_some (find_eq_ok_iff.1 h)

theorem name_of_find {registry : Registry} {name : String} {network : Network}
    (h : registry.find name = .ok network) : network.name = name := by
  have hname := List.find?_some (find_eq_ok_iff.1 h)
  exact beq_iff_eq.1 hname

theorem defaultNetwork_eq_ok_iff {registry : Registry} {network : Network} :
    registry.defaultNetwork = .ok network ↔ registry.networks.head? = some network := by
  unfold defaultNetwork
  cases registry.networks with
  | nil => simp
  | cons first rest => simp

theorem mem_of_defaultNetwork {registry : Registry} {network : Network}
    (h : registry.defaultNetwork = .ok network) : network ∈ registry.networks :=
  List.mem_of_head? (defaultNetwork_eq_ok_iff.1 h)

theorem find_of_defaultNetwork {registry : Registry} {network : Network}
    (h : registry.defaultNetwork = .ok network) : registry.find network.name = .ok network := by
  rw [defaultNetwork_eq_ok_iff] at h
  rw [find_eq_ok_iff]
  cases hnetworks : registry.networks with
  | nil => simp [hnetworks] at h
  | cons first rest =>
    rw [hnetworks, List.head?_cons, Option.some.injEq] at h
    subst h
    exact List.find?_cons_of_pos (by simp)

/-- **A selected network is the one that its name finds.** -/
theorem find_of_select {registry : Registry} {choice : Option String} {network : Network}
    (h : registry.select choice = .ok network) : registry.find network.name = .ok network := by
  cases choice with
  | none => exact find_of_defaultNetwork h
  | some name =>
    have hfind : registry.find name = .ok network := h
    rw [name_of_find hfind]
    exact hfind

theorem mem_of_select {registry : Registry} {choice : Option String} {network : Network}
    (h : registry.select choice = .ok network) : network ∈ registry.networks :=
  mem_of_find (find_of_select h)

end Registry

theorem Network.holds_iff {network : Network} {id : String} :
    network.holds id = true ↔ Did.parse? (network.didOf id) = some ⟨network.name, id⟩ := by
  unfold holds
  split
  · rename_i d hparse
    rw [beq_iff_eq, hparse]
    constructor
    · intro hname
      exact congrArg some (Did.eq_of_parse?_display (d := ⟨network.name, id⟩) hparse hname)
    · intro hd
      rw [Option.some.injEq] at hd
      rw [hd]
  · rename_i hparse
    simp [hparse]

/-! ### Nyms -/

namespace Registry

variable {registry : Registry}

/-- The plan for a new nym on a network. -/
def creationPlan (o : CreateOptions) (network : Network) : Plan CreatedDid :=
  ⟨.create network (.nym network.name (creation o)),
    ⟨network.didOf o.methodSpecificId, o.verkey,
      Document.build (network.didOf o.methodSpecificId) o.verkey⟩⟩

theorem planCreate_eq_ok_iff {o : CreateOptions} {plan : Plan CreatedDid} :
    registry.planCreate o = .ok plan ↔
      (o.methodSpecificId ≠ "" ∧ o.verkey ≠ "") ∧
        ∃ network, registry.select o.network = .ok network ∧
          network.holds o.methodSpecificId = true ∧ plan = creationPlan o network := by
  unfold planCreate
  simp only [ite_throw_eq_ok_iff, Bool.or_eq_true, String.isEmpty_iff, not_or, bind_eq_ok_iff]
  apply and_congr_right
  intro _
  constructor
  · rintro ⟨network, hselect, hplan⟩
    refine ⟨network, hselect, ?_⟩
    split at hplan
    · rename_i hholds
      exact ⟨hholds, (pure_eq_ok_iff.1 hplan).symm⟩
    · exact absurd hplan throw_ne_ok
  · rintro ⟨network, hselect, hholds, rfl⟩
    refine ⟨network, hselect, ?_⟩
    rw [if_pos hholds]
    rfl

/-! ### DIDs of configured networks -/

theorem locate_eq_ok_iff {did : String} {parsed : Did} {network : Network} :
    registry.locate did = .ok (parsed, network) ↔
      Did.parse? did = some parsed ∧ registry.find parsed.network = .ok network := by
  unfold locate
  simp only [bind_eq_ok_iff, pure_eq_ok_iff, Prod.mk.injEq, Did.parse_eq_ok_iff]
  constructor
  · rintro ⟨d, hparse, n, hfind, rfl, rfl⟩
    exact ⟨hparse, hfind⟩
  · rintro ⟨hparse, hfind⟩
    exact ⟨parsed, hparse, network, hfind, rfl, rfl⟩

theorem planResolve_eq_ok_iff {did : String} {errand : Errand} :
    registry.planResolve did = .ok errand ↔
      ∃ parsed network, registry.locate did = .ok (parsed, network) ∧
        errand = .read network did := by
  unfold planResolve
  simp only [bind_eq_ok_iff, pure_eq_ok_iff, Prod.exists, @eq_comm _ _ errand]

theorem planUpdate_eq_ok_iff {did : String} {fields : UpdateFields} {plan : Plan Unit} :
    registry.planUpdate did fields = .ok plan ↔
      ∃ parsed network, registry.locate did = .ok (parsed, network) ∧
        plan = ⟨.update network (.nym network.name (change parsed fields)) did, ()⟩ := by
  unfold planUpdate
  simp only [bind_eq_ok_iff, pure_eq_ok_iff, Prod.exists, @eq_comm _ _ plan]

theorem planDeactivate_eq_ok_iff {did : String} {plan : Plan Unit} :
    registry.planDeactivate did = .ok plan ↔
      ∃ parsed network, registry.locate did = .ok (parsed, network) ∧
        plan = ⟨.delete network did, ()⟩ := by
  unfold planDeactivate
  simp only [bind_eq_ok_iff, pure_eq_ok_iff, Prod.exists, @eq_comm _ _ plan]

/-! ### Schemas and credential definitions -/

/-- Publications go to a configured network. -/
theorem mem_of_issuerNetwork {issuerId : String} {network : Network}
    (h : registry.issuerNetwork issuerId = .ok network) : network ∈ registry.networks := by
  unfold issuerNetwork at h
  split at h
  · rename_i parsed n hlocate
    cases h
    exact mem_of_find (locate_eq_ok_iff.1 hlocate).2
  · exact mem_of_defaultNetwork h

theorem planSchema_eq_ok_iff {s : Schema} {plan : Plan RegisteredSchema} :
    registry.planSchema s = .ok plan ↔
      ((s.issuerId ≠ "" ∧ s.name ≠ "") ∧ s.version ≠ "") ∧
        ∃ network, registry.issuerNetwork s.issuerId = .ok network ∧
          plan = ⟨.create network (s.transaction network.name), s.registered⟩ := by
  unfold planSchema
  simp only [ite_throw_eq_ok_iff, Bool.or_eq_true, String.isEmpty_iff, not_or, bind_eq_ok_iff,
    pure_eq_ok_iff, @eq_comm _ _ plan]

theorem planDefinition_eq_ok_iff {d : Definition} {plan : Plan RegisteredDefinition} :
    registry.planDefinition d = .ok plan ↔
      ((d.issuerId ≠ "" ∧ d.schemaId ≠ "") ∧ d.tag ≠ "") ∧
        ∃ network, registry.issuerNetwork d.issuerId = .ok network ∧
          plan = ⟨.create network (d.transaction network.name), d.registered⟩ := by
  unfold planDefinition
  simp only [ite_throw_eq_ok_iff, Bool.or_eq_true, String.isEmpty_iff, not_or, bind_eq_ok_iff,
    pure_eq_ok_iff, @eq_comm _ _ plan]

end Registry
end DidLedger
