/-
  DidLedger/Proofs/Facade/Calls.lean
  ==================================
  **A call to an agent is at most one operation of its service.**

  The registrar and the resolver decide by the networks and the capabilities which
  operation a call comes to (`ComesTo`), or that it is withheld (`Withheld`).  The
  ledger sees the operation and nothing else, and a call that is withheld leaves
  everything as it was (`run_cases`).
-/
import DidLedger.Facade.Calls
import DidLedger.Proofs.Service.Course

namespace DidLedger.Facade

open DidLedger

/-! ### Requested DIDs -/

/-- The network of a creation: the one of the options, else the method, else the
    first one. -/
def DidCreateOptions.target? (networks : List Network) (o : DidCreateOptions) : Option String :=
  o.options.network <|> o.method <|> networks.head?.map Network.name

/-- The caller asks for another DID than the options give.  Where no network is
    determined there is no DID to compare with. -/
def DidCreateOptions.Mismatches (networks : List Network) (o : DidCreateOptions) : Prop :=
  ∃ requested name, o.did = some requested ∧ o.target? networks = some name ∧
    requested ≠ "did:" ++ name ++ ":" ++ o.options.methodSpecificId

namespace Registrar

theorem targetName?_effective (registry : Registry) (o : DidCreateOptions) :
    targetName? registry (effective o) = o.target? registry.networks := by
  unfold targetName? effective DidCreateOptions.target?
  cases o.options.network with
  | some name => rfl
  | none =>
    cases o.method with
    | some name => rfl
    | none => rfl

/-- The registrar compares the requested DID with the one of the options. -/
theorem mismatch?_eq_none_iff {registry : Registry} {o : DidCreateOptions} :
    mismatch? registry o = none ↔ ¬o.Mismatches registry.networks := by
  unfold mismatch? DidCreateOptions.Mismatches
  rw [targetName?_effective]
  constructor
  · rintro hnone ⟨requested, name, hdid, htarget, hne⟩
    simp only [hdid, htarget] at hnone
    rw [Did.display, if_neg hne] at hnone
    cases hnone
  · intro hmatch
    split
    · rename_i requested name hdid htarget
      by_cases heq : requested = "did:" ++ name ++ ":" ++ o.options.methodSpecificId
      · exact if_pos heq
      · exact absurd ⟨requested, name, hdid, htarget, heq⟩ hmatch
    · rfl

/-- A creation that is finished was not withheld, and tells what the service has
    created. -/
theorem created_of_finished {σ : Type} {registrar : Registrar σ} {o : DidCreateOptions} {s : σ}
    (h : (registrar.create o s).1.didState.state = .finished) :
    ¬o.Mismatches registrar.service.registry.networks ∧
      ∃ c s', registrar.service.create (effective o) s = (.finished c, s') ∧
        registrar.create o s = (.ofCreated (.finished c), s') := by
  unfold create at h ⊢
  split at h
  · cases h
  · rename_i hmatch
    refine ⟨mismatch?_eq_none_iff.1 hmatch, ?_⟩
    cases hcreate : registrar.service.create (effective o) s with
    | mk outcome s' =>
      rw [hcreate] at h
      cases outcome with
      | failed reason => cases h
      | finished c => exact ⟨c, s', rfl, rfl⟩

end Registrar

namespace Agent

/-! ### Calls and operations -/

section
variable (networks : List Network) (offered : Capabilities)

/-- The operation that a call comes to. -/
inductive ComesTo : Call → Operation → Prop
  | operation (op : Operation) : ComesTo (.operation op) op
  | create {o : DidCreateOptions} (h : ¬o.Mismatches networks) :
      ComesTo (.create o) (.create { o.options with network := o.options.network <|> o.method })
  | update {o : DidUpdateOptions} (h : offered.update = true) :
      ComesTo (.update o) (.update o.did o.options)
  | deactivate {o : DidDeactivateOptions} (h : offered.deactivate = true) :
      ComesTo (.deactivate o) (.deactivate o.did)
  | resolve (did : String) : ComesTo (.resolve did) (.resolve did)

/-- The calls for which nothing is done, each with what the caller is told. -/
inductive Withheld : Call → String → Prop
  | create {o : DidCreateOptions} {requested name : String} (hdid : o.did = some requested)
      (htarget : o.target? networks = some name)
      (hne : requested ≠ "did:" ++ name ++ ":" ++ o.options.methodSpecificId) :
      Withheld (.create o) ("requested DID '" ++ requested ++ "' does not match '" ++
        ("did:" ++ name ++ ":" ++ o.options.methodSpecificId) ++ "'")
  | update {o : DidUpdateOptions} (h : offered.update = false) :
      Withheld (.update o) "Update not supported"
  | deactivate {o : DidDeactivateOptions} (h : offered.deactivate = false) :
      Withheld (.deactivate o) "Deactivate not supported"

end

variable {σ : Type}

/-- The operation of the service that a call comes to, if it comes to one. -/
def operation? (agent : Agent σ) : Call → Option Operation
  | .operation op => some op
  | .create o =>
    match Registrar.mismatch? agent.service.registry o with
    | none => some (.create (Registrar.effective o))
    | some _ => none
  | .update o => if agent.capabilities.update then some (.update o.did o.options) else none
  | .deactivate o => if agent.capabilities.deactivate then some (.deactivate o.did) else none
  | .resolve did => some (.resolve did)

/-- The reply to a call whose operation gave the report. -/
def Call.replyTo : Call → Report → Reply
  | .create _, .created outcome => .registration (.ofCreated outcome)
  | .update o, .updated outcome => .registration (.ofChanged o.did outcome)
  | .deactivate o, .deactivated outcome => .registration (.ofChanged o.did outcome)
  | .resolve _, .resolved r => .resolution (.ofResolved r)
  | _, report => .report report

theorem withheld_of_mismatch? {registry : Registry} {offered : Capabilities} {o : DidCreateOptions}
    {e : Error} (h : Registrar.mismatch? registry o = some e) :
    Withheld registry.networks offered (.create o) e.message := by
  unfold Registrar.mismatch? at h
  rw [Registrar.targetName?_effective] at h
  split at h
  · rename_i requested name hdid htarget
    dsimp only at h
    split at h
    · cases h
    · rename_i hne
      cases h
      exact .create hdid htarget hne
  · cases h

/-- **What a call does**: it comes to an operation and does what that does, or it is
    withheld for a reason and changes nothing. -/
theorem run_cases (agent : Agent σ) (call : Call) :
    (∃ op, agent.operation? call = some op ∧
      ComesTo agent.service.registry.networks agent.capabilities call op ∧
      ∀ s, agent.run s call = (agent.service.run s op).map call.replyTo id) ∨
    (agent.operation? call = none ∧ ∃ reason,
      Withheld agent.service.registry.networks agent.capabilities call reason ∧
      ∀ s, agent.run s call = (.registration (.failed reason), s)) := by
  cases call with
  | operation op => exact .inl ⟨op, rfl, .operation op, fun s => rfl⟩
  | create o =>
    cases hmatch : Registrar.mismatch? agent.service.registry o with
    | none =>
      refine .inl ⟨.create (Registrar.effective o), ?_,
        .create (Registrar.mismatch?_eq_none_iff.1 hmatch), fun s => ?_⟩
      · simp only [operation?, hmatch]
      · simp only [run, registrar, Registrar.create, hmatch]
        rfl
    | some e =>
      refine .inr ⟨?_, e.message, withheld_of_mismatch? hmatch, fun s => ?_⟩
      · simp only [operation?, hmatch]
      · simp only [run, registrar, Registrar.create, hmatch]
        rfl
  | update o =>
    cases hoffered : agent.capabilities.update with
    | true =>
      refine .inl ⟨.update o.did o.options, ?_, .update hoffered, fun s => ?_⟩
      · simp only [operation?, hoffered, if_true]
      · simp only [run, registrar, Registrar.update, hoffered, if_true]
        rfl
    | false =>
      refine .inr ⟨?_, _, .update hoffered, fun s => ?_⟩
      · simp only [operation?, hoffered, Bool.false_eq_true, if_false]
      · simp only [run, registrar, Registrar.update, hoffered, Bool.false_eq_true, if_false]
        rfl
  | deactivate o =>
    cases hoffered : agent.capabilities.deactivate with
    | true =>
      refine .inl ⟨.deactivate o.did, ?_, .deactivate hoffered, fun s => ?_⟩
      · simp only [operation?, hoffered, if_true]
      · simp only [run, registrar, Registrar.deactivate, hoffered, if_true]
        rfl
    | false =>
      refine .inr ⟨?_, _, .deactivate hoffered, fun s => ?_⟩
      · simp only [operation?, hoffered, Bool.false_eq_true, if_false]
      · simp only [run, registrar, Registrar.deactivate, hoffered, Bool.false_eq_true, if_false]
        rfl
  | resolve did => exact .inl ⟨.resolve did, rfl, .resolve did, fun s => rfl⟩

/-- **A call that comes to an operation does what the operation does.** -/
theorem run_of_operation? {agent : Agent σ} {call : Call} {op : Operation}
    (h : agent.operation? call = some op) (s : σ) :
    agent.run s call = (agent.service.run s op).map call.replyTo id := by
  rcases run_cases agent call with ⟨op', hop, -, hrun⟩ | ⟨hnone, -⟩
  · cases hop.symm.trans h
    exact hrun s
  · cases hnone.symm.trans h

theorem run_of_operation?_eq_none {agent : Agent σ} {call : Call}
    (h : agent.operation? call = none) (s : σ) :
    ∃ reason, agent.run s call = (.registration (.failed reason), s) := by
  rcases run_cases agent call with ⟨op, hop, -⟩ | ⟨-, reason, -, hrun⟩
  · cases hop.symm.trans h
  · exact ⟨reason, hrun s⟩

end Agent
end DidLedger.Facade
