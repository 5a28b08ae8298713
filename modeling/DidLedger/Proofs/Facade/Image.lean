/-
  DidLedger/Proofs/Facade/Image.lean
  ==================================
  **The registrar and the resolver are an image of the service.**

  A run of calls to an agent is a run of operations of its service: those that the
  calls come to, without the calls that are withheld.  What the ledger holds and
  which requests it has seen in the end is the same in both runs, and each reply
  says what the report of its operation says, in the words of the framework
  (`Mirrors`).

  The last part is about two calls in a row: a DID that was created is resolved to
  the document that the creation gave.
-/
import DidLedger.Proofs.Facade.Calls
import DidLedger.Proofs.Ledger.ReadBack

namespace DidLedger.Facade.Agent

open DidLedger DidLedger.Ledger

/-- A reply says what the report of the operation says. -/
inductive Mirrors : Call → Report → Reply → Prop
  | operation (op : Operation) (report : Report) : Mirrors (.operation op) report (.report report)
  | created (o : DidCreateOptions) (c : CreatedDid) :
      Mirrors (.create o) (.created (.finished c)) (.registration
        ⟨⟨.finished, some c.did, some ⟨c.verkey⟩, some c.document, none⟩, [], []⟩)
  | notCreated (o : DidCreateOptions) (reason : String) :
      Mirrors (.create o) (.created (.failed reason)) (.registration
        ⟨⟨.failed, none, none, none, some reason⟩, [], []⟩)
  | updated (o : DidUpdateOptions) :
      Mirrors (.update o) (.updated (.finished ())) (.registration
        ⟨⟨.finished, some o.did, none, none, none⟩, [], []⟩)
  | notUpdated (o : DidUpdateOptions) (reason : String) :
      Mirrors (.update o) (.updated (.failed reason)) (.registration
        ⟨⟨.failed, none, none, none, some reason⟩, [], []⟩)
  | deactivated (o : DidDeactivateOptions) :
      Mirrors (.deactivate o) (.deactivated (.finished ())) (.registration
        ⟨⟨.finished, some o.did, none, none, none⟩, [], []⟩)
  | notDeactivated (o : DidDeactivateOptions) (reason : String) :
      Mirrors (.deactivate o) (.deactivated (.failed reason)) (.registration
        ⟨⟨.failed, none, none, none, some reason⟩, [], []⟩)
  | found (did : String) (document : Document) :
      Mirrors (.resolve did) (.resolved (.found document)) (.resolution
        ⟨Resolution.baseContext, some document, [], ⟨some Resolution.documentType, none, none⟩⟩)
  | notFound (did message : String) :
      Mirrors (.resolve did) (.resolved (.notFound message)) (.resolution
        ⟨Resolution.baseContext, none, [], ⟨none, some "notFound", some message⟩⟩)
  | unresolved (did message : String) :
      Mirrors (.resolve did) (.resolved (.error message)) (.resolution
        ⟨Resolution.baseContext, none, [], ⟨none, some "notFound", some message⟩⟩)

/-- The calls of a run with their replies are the image of the operations with
    their reports. -/
inductive Image (networks : List Network) (offered : Capabilities) :
    List Call → List Reply → List Operation → List Report → Prop
  | nil : Image networks offered [] [] [] []
  | carried {call : Call} {reply : Reply} {op : Operation} {report : Report} {calls : List Call}
      {replies : List Reply} {ops : List Operation} {reports : List Report}
      (hop : ComesTo networks offered call op) (hreply : Mirrors call report reply)
      (rest : Image networks offered calls replies ops reports) :
      Image networks offered (call :: calls) (reply :: replies) (op :: ops) (report :: reports)
  | withheld {call : Call} {reason : String} {calls : List Call} {replies : List Reply}
      {ops : List Operation} {reports : List Report} (hcall : Withheld networks offered call reason)
      (rest : Image networks offered calls replies ops reports) :
      Image networks offered (call :: calls)
        (.registration ⟨⟨.failed, none, none, none, some reason⟩, [], []⟩ :: replies) ops reports


variable {networks : List Network} {offered : Capabilities} {σ : Type}

/-! ### Single calls -/

theorem mirrors_ofCreated (o : DidCreateOptions) (outcome : Outcome CreatedDid) :
    Mirrors (.create o) (.created outcome) (.registration (.ofCreated outcome)) := by
  cases outcome with
  | finished c => exact .created o c
  | failed reason => exact .notCreated o reason

theorem mirrors_updated (o : DidUpdateOptions) (outcome : Outcome Unit) :
    Mirrors (.update o) (.updated outcome) (.registration (.ofChanged o.did outcome)) := by
  cases outcome with
  | finished _ => exact .updated o
  | failed reason => exact .notUpdated o reason

theorem mirrors_deactivated (o : DidDeactivateOptions) (outcome : Outcome Unit) :
    Mirrors (.deactivate o) (.deactivated outcome) (.registration (.ofChanged o.did outcome)) := by
  cases outcome with
  | finished _ => exact .deactivated o
  | failed reason => exact .notDeactivated o reason

theorem mirrors_ofResolved (did : String) (r : Resolved) :
    Mirrors (.resolve did) (.resolved r) (.resolution (.ofResolved r)) := by
  cases r with
  | found document => exact .found did document
  | notFound message => exact .notFound did message
  | error message => exact .unresolved did message

theorem mirrors_replyTo (service : Service σ) (s : σ) {call : Call} {op : Operation}
    (h : ComesTo networks offered call op) :
    Mirrors call (service.run s op).1 (call.replyTo (service.run s op).1) := by
  cases h with
  | operation op => exact .operation op _
  | create _ => exact mirrors_ofCreated _ _
  | update _ => exact mirrors_updated _ _
  | deactivate _ => exact mirrors_deactivated _ _
  | resolve did => exact mirrors_ofResolved did _

/-- **One call**: it does what its operation does, or nothing. -/
theorem run_image (agent : Agent σ) (s : σ) (call : Call) :
    (∃ op reply, ComesTo agent.service.registry.networks agent.capabilities call op ∧
      Mirrors call (agent.service.run s op).1 reply ∧
      agent.run s call = (reply, (agent.service.run s op).2)) ∨
    ∃ reason, Withheld agent.service.registry.networks agent.capabilities call reason ∧
      agent.run s call = (.registration (.failed reason), s) := by
  rcases run_cases agent call with ⟨op, -, hcall, hrun⟩ | ⟨-, reason, hcall, hrun⟩
  · exact .inl ⟨op, _, hcall, mirrors_replyTo agent.service s hcall, hrun s⟩
  · exact .inr ⟨reason, hcall, hrun s⟩

/-- **A run of calls**: by induction, with the operations collected on the way. -/
theorem runAll_image (agent : Agent σ) (s : σ) (calls : List Call) :
    ∃ ops, (agent.runAll s calls).2 = (agent.service.runAll s ops).2 ∧
      Image agent.service.registry.networks agent.capabilities calls (agent.runAll s calls).1 ops
        (agent.service.runAll s ops).1 := by
  induction calls generalizing s with
  | nil => exact ⟨[], rfl, .nil⟩
  | cons call calls ih =>
    rcases run_image agent s call with ⟨op, reply, hop, hreply, hrun⟩ | ⟨reason, hcall, hrun⟩
    · obtain ⟨ops, hstate, hrest⟩ := ih (agent.service.run s op).2
      refine ⟨op :: ops, ?_, ?_⟩
      · simpa only [runAll, Service.runAll, hrun] using hstate
      · simpa only [runAll, Service.runAll, hrun] using Image.carried hop hreply hrest
    · obtain ⟨ops, hstate, hrest⟩ := ih s
      refine ⟨ops, ?_, ?_⟩
      · simpa only [runAll, hrun] using hstate
      · simp only [runAll, hrun]
        exact .withheld hcall hrest

/-! ### A creation and the next resolution -/

theorem create_of_recording {registry : Registry} {o : CreateOptions} {outcome : Outcome CreatedDid}
    {s : Store} {past : List DidLedger.Call} {s' : Store × List DidLedger.Call}
    (h : Service.create ⟨registry, Store.transport.recording⟩ o (s, past) = (outcome, s')) :
    Service.create ⟨registry, Store.transport⟩ o s = (outcome, s'.1) := by
  have hrun : Service.run ⟨registry, Store.transport.recording⟩ (s, past) (.create o) =
      (.created outcome, s') := by
    rw [Service.run, h]
    rfl
  obtain ⟨hreport, hstate⟩ :=
    Service.run_recording registry Store.transport s past (.create o)
  rw [hrun] at hreport hstate
  apply Prod.ext
  · exact (Report.created.inj hreport).symm
  · exact hstate.symm

theorem resolve_recording (registry : Registry) (did : String)
    (s : Store × List DidLedger.Call) :
    (Service.resolve ⟨registry, Store.transport.recording⟩ did s).1 =
      (Service.resolve ⟨registry, Store.transport⟩ did s.1).1 :=
  Report.resolved.inj
    (Service.run_recording registry Store.transport s.1 s.2 (.resolve did)).1

/-- **What the registrar has created, the resolver shows next.** -/
theorem resolve_of_create_finished {registry : Registry} {offered : Capabilities}
    {o : DidCreateOptions} {result : DidOperationResult} {s s' : Store × List DidLedger.Call}
    (h : Registrar.create ⟨⟨registry, Store.transport.recording⟩, offered⟩ o s = (result, s'))
    (hfinished : result.didState.state = .finished) :
    ∃ did document, result.didState.did = some did ∧
      result.didState.didDocument = some document ∧
      (Resolver.resolve ⟨⟨registry, Store.transport.recording⟩⟩ did s').1.didDocument =
        some document := by
  have hstate : (Registrar.create ⟨⟨registry, Store.transport.recording⟩, offered⟩ o
      s).1.didState.state = .finished := by rw [h]; exact hfinished
  obtain ⟨-, c, s'', hcreate, hcreated⟩ := Registrar.created_of_finished hstate
  rw [h] at hcreated
  cases hcreated
  refine ⟨c.did, c.document, rfl, rfl, ?_⟩
  have hresolve := Service.resolve_of_created (create_of_recording hcreate)
  have hdocument := Service.document_of_created hcreate
  unfold Resolver.resolve
  rw [Prod.map_fst, resolve_recording, hresolve, ← hdocument]
  rfl

/-- **The parts of an agent over a ledger that keeps a list of its requests.**  A
    run of calls leaves the ledger and its list as the operations leave them that
    the calls come to, and replies what their reports say; after it, what the
    registrar creates the resolver shows next. -/
theorem agent_image (config : Config) (offered : Capabilities) (s : Store × List DidLedger.Call)
    (calls : List Call) :
    let agent := (Agent.new config Store.transport.recording).withCapabilities offered
    let service : Service (Store × List DidLedger.Call) :=
      ⟨.ofConfig config, Store.transport.recording⟩
    ∃ ops, (agent.runAll s calls).2 = (service.runAll s ops).2 ∧
      Image config.networks offered calls (agent.runAll s calls).1 ops (service.runAll s ops).1 ∧
      ∀ o result s', agent.registrar.create o (agent.runAll s calls).2 = (result, s') →
        result.didState.state = .finished →
        ∃ did document, result.didState.did = some did ∧
          result.didState.didDocument = some document ∧
          (agent.resolver.resolve did s').1.didDocument = some document := by
  intro agent service
  obtain ⟨ops, hstate, himage⟩ := runAll_image agent s calls
  refine ⟨ops, hstate, himage, ?_⟩
  intro o result s' hcreate hfinished
  exact resolve_of_create_finished hcreate hfinished

/-- A deactivation that is not offered, and a creation after it. -/
theorem agent_image_createOnly :
    let agent := (Agent.new ⟨[.new "testnet" "http://ledger"], none⟩
      Store.transport.recording).withCapabilities .createOnly
    ∃ result s', agent.registrar.create ⟨none, none, .new "demo123" "Verkey123"⟩
        (agent.runAll (Store.empty .reject, []) [.deactivate ⟨"did:testnet:demo123"⟩]).2 =
        (result, s') ∧
      result.didState.state = .finished ∧
      ∃ did document, result.didState.did = some did ∧ result.didState.didDocument = some document ∧
        (agent.resolver.resolve did s').1.didDocument = some document := by
  intro agent
  obtain ⟨ops, -, -, hnext⟩ := agent_image ⟨[.new "testnet" "http://ledger"], none⟩ .createOnly
    (Store.empty .reject, []) [.deactivate ⟨"did:testnet:demo123"⟩]
  exact ⟨_, _, rfl, rfl, hnext ⟨none, none, .new "demo123" "Verkey123"⟩ _ _ rfl rfl⟩

end DidLedger.Facade.Agent
