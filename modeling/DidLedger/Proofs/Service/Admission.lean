/-
  DidLedger/Proofs/Service/Admission.lean
  =======================================
  **Which operations ask a ledger, and what their reports tell of the answer.**

  The input and the configured networks decide whether an operation sends a
  request (`Admits`), before there is any ledger to ask.  An operation that is not
  admitted sends nothing and fails with a reason that is the same over every
  transport.  One that is admitted sends a single request, whatever the ledger
  holds, and its report tells whether the answer to it was an error.

  The proof never looks at a transport: `admits_iff` finds the admitted operations
  among the courses, and the two lemmas after it read the reports off them.
-/
import DidLedger.Proofs.Ledger.Directory
import DidLedger.Proofs.Service.Routing

namespace DidLedger

open DidLedger.Ledger DidLedger.Credential

/-! ### Conditions and reports -/

/-- What an operation needs so that there is something to send. -/
def Registry.Admits (registry : Registry) : Operation → Prop
  | .create o =>
    (o.methodSpecificId ≠ "" ∧ o.verkey ≠ "") ∧
      ∃ network, Directory.networkOf registry.networks o.network = some network ∧
        (Did.parse? ("did:" ++ network.name ++ ":" ++ o.methodSpecificId)).map Did.network =
          some network.name
  | .resolve did => Directory.addresses registry.networks did = true
  | .update did _ => Directory.addresses registry.networks did = true
  | .deactivate did => Directory.addresses registry.networks did = true
  | .registerSchema s =>
    ((s.issuerId ≠ "" ∧ s.name ≠ "") ∧ s.version ≠ "") ∧ registry.networks ≠ []
  | .registerDefinition d =>
    ((d.issuerId ≠ "" ∧ d.schemaId ≠ "") ∧ d.tag ≠ "") ∧ registry.networks ≠ []
  | .getSchema _ => False
  | .getDefinition _ => False

namespace Report

/-- A write failed, or a resolution came to an error. -/
def Failed : Report → Prop
  | .created outcome => outcome.isFinished = false
  | .resolved r => ∃ message, r = .error message
  | .updated outcome => outcome.isFinished = false
  | .deactivated outcome => outcome.isFinished = false
  | .schemaRegistered outcome => outcome.isFinished = false
  | .definitionRegistered outcome => outcome.isFinished = false
  | .schemaRead outcome => outcome.isFinished = false
  | .definitionRead outcome => outcome.isFinished = false

/-- A write failed, or a resolution did not find the DID. -/
def Refused : Report → Prop
  | .resolved r => ∃ message, r = .notFound message
  | report => report.Failed

end Report

/-! ### Courses of planned operations -/

namespace Course

theorem asks_ofWrite_iff {α : Type} {report : Outcome α → Report} {plan : Except Error (Plan α)} :
    (∃ errand conclude, ofWrite report plan = .asking errand conclude) ↔ ∃ p, plan = .ok p := by
  constructor
  · rintro ⟨errand, conclude, h⟩
    obtain ⟨p, hp, -⟩ := plan_of_ofWrite h
    exact ⟨p, hp⟩
  · rintro ⟨p, rfl⟩
    exact ⟨_, _, rfl⟩

theorem asks_ofRead_iff {did : String} {plan : Except Error Errand} :
    (∃ errand conclude, ofRead did plan = .asking errand conclude) ↔ ∃ errand, plan = .ok errand := by
  constructor
  · rintro ⟨errand, conclude, h⟩
    exact ⟨errand, plan_of_ofRead h⟩
  · rintro ⟨errand, rfl⟩
    exact ⟨_, _, rfl⟩

theorem failed_of_ofWrite {α : Type} {report : Outcome α → Report} {plan : Except Error (Plan α)}
    {r : Report} (hreport : ∀ outcome, (report outcome).Failed ↔ outcome.isFinished = false)
    (h : ofWrite report plan = .ended r) : r.Failed := by
  cases plan with
  | ok p => cases h
  | error e =>
    cases h
    exact (hreport _).2 rfl

theorem refused_of_ofWrite {α : Type} {report : Outcome α → Report} {plan : Except Error (Plan α)}
    {errand : Errand} {conclude : Answer → Report}
    (hreport : ∀ outcome, (report outcome).Refused ↔ outcome.isFinished = false)
    (h : ofWrite report plan = .asking errand conclude) (answer : Answer) :
    (conclude answer).Refused ↔ ∃ e, answer = .error e := by
  cases plan with
  | error e => cases h
  | ok p =>
    cases h
    rw [hreport]
    cases answer with
    | error e => exact ⟨fun _ => ⟨e, rfl⟩, fun _ => rfl⟩
    | ok value =>
      constructor
      · intro hfinished
        cases hfinished
      · rintro ⟨e, he⟩
        cases he

/-- A whole answer is never taken for a DID that the ledger does not know. -/
theorem documentOf_ne_notFound (did : String) (value : Json) (message : String) :
    Service.documentOf did value ≠ .notFound message := by
  unfold Service.documentOf
  intro h
  split at h
  · cases h
  · cases h

theorem refused_of_ofRead {did : String} {plan : Except Error Errand} {errand : Errand}
    {conclude : Answer → Report} (h : ofRead did plan = .asking errand conclude) (answer : Answer) :
    (conclude answer).Refused ↔ ∃ e, answer = .error e := by
  cases plan with
  | error e => cases h
  | ok p =>
    cases h
    cases answer with
    | error e => exact ⟨fun _ => ⟨e, rfl⟩, fun _ => ⟨_, rfl⟩⟩
    | ok value =>
      constructor
      · rintro ⟨message, hmessage⟩
        exact absurd hmessage (documentOf_ne_notFound did value message)
      · rintro ⟨e, he⟩
        cases he

end Course

/-! ### Courses of all operations -/

namespace Registry

variable {registry : Registry}

theorem exists_planCreate_iff {o : CreateOptions} :
    (∃ p, registry.planCreate o = .ok p) ↔ registry.Admits (.create o) := by
  simp only [planCreate_eq_ok_iff, ← Directory.networkOf_eq_some_iff]
  constructor
  · rintro ⟨p, hinput, network, hnetwork, hholds, -⟩
    exact ⟨hinput, network, hnetwork, Directory.map_network_parse?_iff.2 hholds⟩
  · rintro ⟨hinput, network, hnetwork, hparse⟩
    exact ⟨_, hinput, network, hnetwork, Directory.map_network_parse?_iff.1 hparse, rfl⟩

/-- An issuer has a network as soon as any network is configured. -/
theorem exists_issuerNetwork_iff (issuerId : String) :
    (∃ network, registry.issuerNetwork issuerId = .ok network) ↔ registry.networks ≠ [] := by
  constructor
  · rintro ⟨network, h⟩
    exact List.ne_nil_of_mem (mem_of_issuerNetwork h)
  · intro hne
    obtain ⟨first, rest, hnetworks⟩ := List.exists_cons_of_ne_nil hne
    unfold issuerNetwork
    split
    · exact ⟨_, rfl⟩
    · exact ⟨first, by rw [defaultNetwork_eq_ok_iff, hnetworks, List.head?_cons]⟩

theorem exists_planSchema_iff {s : Schema} :
    (∃ p, registry.planSchema s = .ok p) ↔ registry.Admits (.registerSchema s) := by
  simp only [planSchema_eq_ok_iff, Admits, ← exists_issuerNetwork_iff s.issuerId]
  constructor
  · rintro ⟨p, hinput, network, hnetwork, -⟩
    exact ⟨hinput, network, hnetwork⟩
  · rintro ⟨hinput, network, hnetwork⟩
    exact ⟨_, hinput, network, hnetwork, rfl⟩

theorem exists_planDefinition_iff {d : Definition} :
    (∃ p, registry.planDefinition d = .ok p) ↔ registry.Admits (.registerDefinition d) := by
  simp only [planDefinition_eq_ok_iff, Admits, ← exists_issuerNetwork_iff d.issuerId]
  constructor
  · rintro ⟨p, hinput, network, hnetwork, -⟩
    exact ⟨hinput, network, hnetwork⟩
  · rintro ⟨hinput, network, hnetwork⟩
    exact ⟨_, hinput, network, hnetwork, rfl⟩

/-- **The admitted operations are those whose course makes a request.** -/
theorem admits_iff (registry : Registry) (op : Operation) :
    registry.Admits op ↔ ∃ errand conclude, registry.course op = .asking errand conclude := by
  cases op with
  | create o => exact (Course.asks_ofWrite_iff.trans exists_planCreate_iff).symm
  | resolve did =>
    exact (Course.asks_ofRead_iff.trans
      (Directory.exists_plan_iff fun p => planResolve_eq_ok_iff)).symm
  | update did fields =>
    exact (Course.asks_ofWrite_iff.trans
      (Directory.exists_plan_iff fun p => planUpdate_eq_ok_iff)).symm
  | deactivate did =>
    exact (Course.asks_ofWrite_iff.trans
      (Directory.exists_plan_iff fun p => planDeactivate_eq_ok_iff)).symm
  | registerSchema s => exact (Course.asks_ofWrite_iff.trans exists_planSchema_iff).symm
  | registerDefinition d => exact (Course.asks_ofWrite_iff.trans exists_planDefinition_iff).symm
  | getSchema id =>
    constructor
    · intro h
      cases h
    · rintro ⟨errand, conclude, h⟩
      cases h
  | getDefinition id =>
    constructor
    · intro h
      cases h
    · rintro ⟨errand, conclude, h⟩
      cases h

theorem failed_of_ended {op : Operation} {report : Report}
    (h : registry.course op = .ended report) : report.Failed := by
  cases op with
  | create o => exact Course.failed_of_ofWrite (fun _ => Iff.rfl) h
  | resolve did =>
    simp only [course] at h
    cases hplan : registry.planResolve did with
    | ok errand =>
      rw [hplan] at h
      cases h
    | error e =>
      rw [hplan] at h
      cases h
      exact ⟨_, rfl⟩
  | update did fields => exact Course.failed_of_ofWrite (fun _ => Iff.rfl) h
  | deactivate did => exact Course.failed_of_ofWrite (fun _ => Iff.rfl) h
  | registerSchema s => exact Course.failed_of_ofWrite (fun _ => Iff.rfl) h
  | registerDefinition d => exact Course.failed_of_ofWrite (fun _ => Iff.rfl) h
  | getSchema id =>
    cases h
    rfl
  | getDefinition id =>
    cases h
    rfl

theorem refused_iff {op : Operation} {errand : Errand} {conclude : Answer → Report}
    (h : registry.course op = .asking errand conclude) (answer : Answer) :
    (conclude answer).Refused ↔ ∃ e, answer = .error e := by
  cases op with
  | create o => exact Course.refused_of_ofWrite (fun _ => Iff.rfl) h answer
  | resolve did => exact Course.refused_of_ofRead h answer
  | update did fields => exact Course.refused_of_ofWrite (fun _ => Iff.rfl) h answer
  | deactivate did => exact Course.refused_of_ofWrite (fun _ => Iff.rfl) h answer
  | registerSchema s => exact Course.refused_of_ofWrite (fun _ => Iff.rfl) h answer
  | registerDefinition d => exact Course.refused_of_ofWrite (fun _ => Iff.rfl) h answer
  | getSchema id => cases h
  | getDefinition id => cases h

end Registry

/-! ### Requests of an operation -/

namespace Service

variable {σ : Type}

/-- **An operation sends one request if its input is admitted and none if it is
    not.**  Without a request it fails, and alike over every transport; with one
    it tells whether the answer was an error. -/
theorem run_sends_iff_admits (registry : Registry) (transport : Transport σ) (op : Operation)
    (s : σ) (log : List Errand) :
    let r := run ⟨registry, transport.logging⟩ (s, log) op
    (registry.Admits op ∧ ∃ errand, r.2.2 = log ++ [errand] ∧
        r.2.1 = (transport errand.network errand.request s).2 ∧
        (r.1.Refused ↔ ∃ e, (transport errand.network errand.request s).1 = .error e)) ∨
      (¬registry.Admits op ∧ r.2 = (s, log) ∧ r.1.Failed ∧
        ∀ (τ : Type) (other : Transport τ) (t : τ), (run ⟨registry, other⟩ t op).1 = r.1) := by
  simp only [run_eq_follow, Registry.admits_iff]
  cases hcourse : registry.course op with
  | ended report =>
    right
    refine ⟨?_, rfl, Registry.failed_of_ended hcourse, fun τ other t => rfl⟩
    rintro ⟨errand, conclude, h⟩
    cases h
  | asking errand conclude =>
    left
    refine ⟨⟨errand, conclude, rfl⟩, errand, rfl, rfl, ?_⟩
    exact Registry.refused_iff hcourse _

end Service
end DidLedger
