/-
  DidLedger/Proofs/Facade/Requested.lean
  ======================================
  **A DID that the caller asks for is the one that is created, or nothing is.**

  The registrar composes the DID from the name of a network that it has not looked
  up; the service composes it again from the entry that it has found.  The two
  agree, because an entry is found under its own name and the default entry is the
  first one in either place (`target?_of_select`).  So a request for another DID is
  refused before anything is sent, and a request for the right one is as good as no
  request.
-/
import DidLedger.Proofs.Facade.Calls
import DidLedger.Proofs.Service.Routing

namespace DidLedger.Facade.Registrar

open DidLedger DidLedger.Ledger

variable {σ : Type} {registry : Registry} {o : DidCreateOptions}

/-- Where a DID is requested and a network is determined, the two are compared. -/
theorem mismatches_iff {networks : List Network} {requested name : String}
    (hdid : o.did = some requested) (htarget : o.target? networks = some name) :
    o.Mismatches networks ↔ requested ≠ "did:" ++ name ++ ":" ++ o.options.methodSpecificId := by
  constructor
  · rintro ⟨requested', name', hdid', htarget', hne⟩
    cases hdid.symm.trans hdid'
    cases htarget.symm.trans htarget'
    exact hne
  · intro hne
    exact ⟨requested, name, hdid, htarget, hne⟩

/-- The network that the service selects is the one that the registrar goes by. -/
theorem target?_of_select {e : Network}
    (h : registry.select (effective o).network = .ok e) :
    o.target? registry.networks = some e.name := by
  rw [← targetName?_effective, targetName?]
  cases hchoice : (effective o).network with
  | some name =>
    rw [hchoice] at h
    exact congrArg some (Registry.name_of_find h).symm
  | none =>
    rw [hchoice] at h
    have hfirst := Registry.defaultNetwork_eq_ok_iff.1 h
    simp only [hfirst, Option.map_some]

/-- What the service creates has the DID that the options determine. -/
theorem did_of_created {transport : Transport σ} {c : CreatedDid} {s s' : σ}
    (h : Service.create ⟨registry, transport⟩ (effective o) s = (.finished c, s')) :
    ∃ name, o.target? registry.networks = some name ∧
      c.did = "did:" ++ name ++ ":" ++ o.options.methodSpecificId ∧ c.document.id = c.did := by
  obtain ⟨plan, hplan, rfl⟩ := Service.plan_of_finished h
  obtain ⟨-, e, hselect, -, rfl⟩ := Registry.planCreate_eq_ok_iff.1 hplan
  exact ⟨e.name, target?_of_select hselect, rfl, rfl⟩

/-- Without a requested DID there is nothing to compare. -/
theorem create_of_match (registrar : Registrar σ)
    (h : ¬o.Mismatches registrar.service.registry.networks) (s : σ) :
    registrar.create o s = registrar.create { o with did := none } s := by
  have hnone : ¬DidCreateOptions.Mismatches registrar.service.registry.networks
      { o with did := none } := by
    rintro ⟨requested, name, hdid, -⟩
    cases hdid
  simp only [create, mismatch?_eq_none_iff.2 h, mismatch?_eq_none_iff.2 hnone]
  rfl

theorem create_of_mismatch (registrar : Registrar σ)
    (h : o.Mismatches registrar.service.registry.networks) (s : σ) :
    ∃ reason, registrar.create o s = (.failed reason, s) := by
  unfold create
  split
  · exact ⟨_, rfl⟩
  · rename_i hmatch
    exact absurd h (mismatch?_eq_none_iff.1 hmatch)

/-- **A requested DID is honoured or refused.**  A finished creation has it, in the
    result and in the document.  Where a network is determined, any other DID than
    the one of the options fails and nothing is sent, and that one gives the result
    and the request of a creation without a requested DID. -/
theorem create_requested {requested : String} (hdid : o.did = some requested)
    (registry : Registry) (transport : Transport σ) (offered : Capabilities) (s : σ)
    (log : List Errand) :
    let registrar : Registrar (σ × List Errand) := ⟨⟨registry, transport.logging⟩, offered⟩
    let r := registrar.create o (s, log)
    (r.1.didState.state = .finished → r.1.didState.did = some requested ∧
      ∃ document, r.1.didState.didDocument = some document ∧ document.id = requested) ∧
    ∀ name, o.target? registry.networks = some name →
      (requested ≠ "did:" ++ name ++ ":" ++ o.options.methodSpecificId →
        r.1.didState.state = .failed ∧ r.2 = (s, log)) ∧
      (requested = "did:" ++ name ++ ":" ++ o.options.methodSpecificId →
        r = registrar.create { o with did := none } (s, log)) := by
  intro registrar r
  refine ⟨?_, fun name htarget => ⟨?_, ?_⟩⟩
  · intro hfinished
    obtain ⟨hmatch, c, s', hcreate, hresult⟩ := created_of_finished hfinished
    obtain ⟨name, htarget, hc, hdocument⟩ := did_of_created hcreate
    have hrequested : requested = c.did := by
      rw [mismatches_iff hdid htarget, Decidable.not_not] at hmatch
      exact hmatch.trans hc.symm
    simp only [r, hresult, hrequested]
    exact ⟨rfl, c.document, rfl, hdocument⟩
  · intro hne
    have hmismatch := (mismatches_iff hdid htarget).2 hne
    obtain ⟨reason, hrefused⟩ := create_of_mismatch registrar hmismatch (s, log)
    simp only [r, hrefused]
    exact ⟨rfl, trivial⟩
  · intro heq
    apply create_of_match
    rw [mismatches_iff hdid htarget, Decidable.not_not]
    exact heq

/-- Two networks, of which the method names the second: its DID is honoured, and the
    one of the first network is refused. -/
theorem create_requested_byMethod :
    let registrar : Registrar (Nat × List Errand) :=
      ⟨⟨⟨[.new "main" "http://a", .new "testnet" "http://b"]⟩,
        (Transport.scripted []).logging⟩, .all⟩
    let asking (did : String) : DidCreateOptions :=
      ⟨some "testnet", some did, .new "pool1:demo123" "K"⟩
    let honoured := registrar.create (asking "did:testnet:pool1:demo123") (0, [])
    honoured.1.didState.state = .finished ∧
      (∃ document, honoured.1.didState.didDocument = some document ∧
        document.id = "did:testnet:pool1:demo123") ∧
      honoured = registrar.create ⟨some "testnet", none, .new "pool1:demo123" "K"⟩ (0, []) ∧
      (registrar.create (asking "did:main:pool1:demo123") (0, [])).2 = (0, []) := by
  intro registrar asking honoured
  have hfinished : honoured.1.didState.state = .finished := by decide +kernel
  obtain ⟨hhonoured, htarget⟩ := create_requested (o := asking "did:testnet:pool1:demo123") rfl
    ⟨[.new "main" "http://a", .new "testnet" "http://b"]⟩ (Transport.scripted []) .all 0 []
  obtain ⟨-, hother⟩ := create_requested (o := asking "did:main:pool1:demo123") rfl
    ⟨[.new "main" "http://a", .new "testnet" "http://b"]⟩ (Transport.scripted []) .all 0 []
  exact ⟨hfinished, (hhonoured hfinished).2, (htarget "testnet" rfl).2 rfl,
    ((hother "testnet" rfl).1 (by decide)).2⟩

end DidLedger.Facade.Registrar
