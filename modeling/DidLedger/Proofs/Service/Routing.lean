/-
  DidLedger/Proofs/Service/Routing.lean
  =====================================
  **A DID that was created is asked for on the network that it was written to.**

  Creation picks a network by its name or takes the first one; every other
  operation finds a network again by reading the DID that creation has put
  together.  Both come to the same entry of the configuration: the DID reads back
  with the name of the entry, since creation fails otherwise, and the entry is the
  first one of its name, whichever way it was picked.

  Which entries are asked is read off a transport that lists them (`logging`); it
  keeps the whole entry, with its base URL and its token, and not the name only.
-/
import DidLedger.Proofs.Service.Course

namespace DidLedger

open DidLedger.Ledger

/-- Lists each request with the network it goes to before it is answered. -/
def Transport.logging {σ : Type} (transport : Transport σ) : Transport (σ × List Errand) :=
  fun network request (s, log) =>
    let (answer, s) := transport network request s
    (answer, s, log ++ [⟨network, request⟩])

namespace Service

variable {σ : Type} {registry : Registry} {transport : Transport σ}

/-! ### What is listed -/

/-- **An operation lists the request that its course makes, and no other.** -/
theorem follow_logging (transport : Transport σ) (course : Course) (s : σ) (log : List Errand) :
    (course.follow transport.logging (s, log)).2.2 = log ++ course.errands := by
  cases course with
  | ended report => exact (List.append_nil log).symm
  | asking errand conclude => rfl

theorem write_logging {α : Type} (registry : Registry) (transport : Transport σ)
    (report : Outcome α → Report) (plan : Except Error (Plan α)) (s : σ) (log : List Errand) :
    (write ⟨registry, transport.logging⟩ plan (s, log)).2.2 =
      log ++ (Course.ofWrite report plan).errands := by
  have hcourse := write_eq_follow ⟨registry, transport.logging⟩ report plan (s, log)
  rw [← follow_logging transport _ s]
  exact congrArg (fun r => r.2.2) hcourse

theorem resolve_logging {did : String} {parsed : Did} {network : Network}
    (hlocate : registry.locate did = .ok (parsed, network)) (s : σ) (log : List Errand) :
    (resolve ⟨registry, transport.logging⟩ did (s, log)).2.2 = log ++ [.read network did] := by
  have hplan := Registry.planResolve_eq_ok_iff.2 ⟨parsed, network, hlocate, rfl⟩
  have hcourse := resolve_eq_follow ⟨registry, transport.logging⟩ did (s, log)
  have hlog := follow_logging transport (.ofRead did (registry.planResolve did)) s log
  rw [← hcourse, hplan] at hlog
  exact hlog

theorem update_logging {did : String} {parsed : Did} {network : Network}
    (hlocate : registry.locate did = .ok (parsed, network)) (fields : UpdateFields) (s : σ)
    (log : List Errand) :
    (update ⟨registry, transport.logging⟩ did fields (s, log)).2.2 =
      log ++ [.update network (.nym network.name (Registry.change parsed fields)) did] := by
  have hplan : registry.planUpdate did fields =
      .ok ⟨.update network (.nym network.name (Registry.change parsed fields)) did, ()⟩ :=
    Registry.planUpdate_eq_ok_iff.2 ⟨parsed, network, hlocate, rfl⟩
  have hlog := write_logging registry transport .updated (registry.planUpdate did fields) s log
  rw [hplan] at hlog
  rw [update, hplan]
  exact hlog

theorem deactivate_logging {did : String} {parsed : Did} {network : Network}
    (hlocate : registry.locate did = .ok (parsed, network)) (s : σ) (log : List Errand) :
    (deactivate ⟨registry, transport.logging⟩ did (s, log)).2.2 = log ++ [.delete network did] := by
  have hplan := Registry.planDeactivate_eq_ok_iff.2 ⟨parsed, network, hlocate, rfl⟩
  have hlog := write_logging registry transport .deactivated (registry.planDeactivate did) s log
  rw [hplan] at hlog
  rw [deactivate, hplan]
  exact hlog

/-! ### Created DIDs -/

/-- What is known of a DID whose creation was finished after a request to `e`. -/
structure CreatedOn (registry : Registry) (o : CreateOptions) (c : CreatedDid) (e : Network) :
    Prop where
  mem : e ∈ registry.networks
  did_eq : c.did = "did:" ++ e.name ++ ":" ++ o.methodSpecificId
  parse_eq : Did.parse c.did = .ok ⟨e.name, o.methodSpecificId⟩
  find_eq : registry.find e.name = .ok e
  verkey_eq : c.verkey = o.verkey
  document_eq : c.document = Document.build c.did o.verkey

/-- The one request of a finished creation carries what the options say. -/
theorem creation_of_finished {o : CreateOptions} {c : CreatedDid} {s s' : σ}
    {log log' : List Errand}
    (h : create ⟨registry, transport.logging⟩ o (s, log) = (.finished c, s', log')) :
    ∃ e, log' = log ++ [.create e (.nym e.name (Registry.creation o))] ∧
      CreatedOn registry o c e := by
  obtain ⟨plan, hplan, rfl⟩ := plan_of_finished h
  have hlog := write_logging registry transport .created (registry.planCreate o) s log
  rw [create] at h
  rw [h, hplan] at hlog
  obtain ⟨-, e, hselect, hholds, rfl⟩ := Registry.planCreate_eq_ok_iff.1 hplan
  refine ⟨e, hlog, Registry.mem_of_select hselect, rfl, ?_, Registry.find_of_select hselect,
    rfl, rfl⟩
  exact Did.parse_eq_ok_iff.2 (Network.holds_iff.1 hholds)

theorem createdOn_of_finished {o : CreateOptions} {c : CreatedDid} {s s' : σ}
    {log log' : List Errand}
    (h : create ⟨registry, transport.logging⟩ o (s, log) = (.finished c, s', log')) :
    ∃ e r, log' = log ++ [⟨e, r⟩] ∧ CreatedOn registry o c e := by
  obtain ⟨e, hlog, hcreated⟩ := creation_of_finished h
  exact ⟨e, _, hlog, hcreated⟩

theorem CreatedOn.locate_eq {o : CreateOptions} {c : CreatedDid} {e : Network}
    (h : CreatedOn registry o c e) :
    registry.locate c.did = .ok (⟨e.name, o.methodSpecificId⟩, e) :=
  Registry.locate_eq_ok_iff.2 ⟨Did.parse_eq_ok_iff.1 h.parse_eq, h.find_eq⟩

/-- The text of a created DID tells its network and its identifier. -/
theorem CreatedOn.unique {o o' : CreateOptions} {c c' : CreatedDid} {e e' : Network}
    (h : CreatedOn registry o c e) (h' : CreatedOn registry o' c' e') (hdid : c'.did = c.did) :
    e'.name = e.name ∧ o'.methodSpecificId = o.methodSpecificId := by
  have hparse := h'.parse_eq
  rw [hdid, h.parse_eq, Except.ok.injEq, Did.mk.injEq] at hparse
  exact ⟨hparse.1.symm, hparse.2.symm⟩

/-- **Creation writes a DID to the entry that every later operation on the DID
    asks**, and two creations with different networks or identifiers never
    finish with the same DID. -/
theorem create_finished_routes {o : CreateOptions} {c : CreatedDid} {s s' : σ}
    {log log' : List Errand}
    (h : create ⟨registry, transport.logging⟩ o (s, log) = (.finished c, s', log')) :
    ∃ e r, log' = log ++ [⟨e, r⟩] ∧ e ∈ registry.networks ∧
      Did.parse c.did = .ok ⟨e.name, o.methodSpecificId⟩ ∧
      c.did = "did:" ++ e.name ++ ":" ++ o.methodSpecificId ∧
      c.document = Document.build c.did o.verkey ∧
      ∀ (τ : Type) (later : Transport τ) (t : τ) (past : List Errand),
        (resolve ⟨registry, later.logging⟩ c.did (t, past)).2.2 = past ++ [.read e c.did] ∧
        (∀ fields, ∃ request, (update ⟨registry, later.logging⟩ c.did fields (t, past)).2.2 =
          past ++ [⟨e, request⟩]) ∧
        (deactivate ⟨registry, later.logging⟩ c.did (t, past)).2.2 = past ++ [.delete e c.did] ∧
        ∀ o₂ c₂ t' e₂ r₂,
          create ⟨registry, later.logging⟩ o₂ (t, past) = (.finished c₂, t', past ++ [⟨e₂, r₂⟩]) →
          c₂.did = c.did → e₂.name = e.name ∧ o₂.methodSpecificId = o.methodSpecificId := by
  obtain ⟨e, r, hlog, hcreated⟩ := createdOn_of_finished h
  have hlocate := hcreated.locate_eq
  refine ⟨e, r, hlog, hcreated.mem, hcreated.parse_eq, hcreated.did_eq, hcreated.document_eq, ?_⟩
  intro τ later t past
  refine ⟨resolve_logging hlocate t past, ?_, deactivate_logging hlocate t past, ?_⟩
  · intro fields
    exact ⟨_, update_logging hlocate fields t past⟩
  · intro o₂ c₂ t' e₂ r₂ h₂ hdid
    obtain ⟨e₂', r₂', hlog₂, hcreated₂⟩ := createdOn_of_finished h₂
    have hentry := List.append_cancel_left hlog₂
    cases hentry
    exact hcreated.unique hcreated₂ hdid

/-- Two entries of one name behind another entry. -/
def sameName : Registry :=
  ⟨[.new "b" "http://b", .new "a" "http://a", .new "a" "http://c"]⟩

/-- The first entry of the name is written to and asked, and the other name gives another DID. -/
theorem create_finished_routes_sameName :
    let service : Service (Nat × List Errand) :=
      ⟨sameName, (Transport.scripted [.ok .null]).logging⟩
    let here := create service ⟨"x:y", "K", some "a", none⟩ (0, [])
    let there := create service ⟨"x:y", "K", some "b", none⟩ (0, [])
    here.1 = .finished ⟨"did:a:x:y", "K", Document.build "did:a:x:y" "K"⟩ ∧
      here.2.2 = [.create (.new "a" "http://a") (.nym "a" ⟨"x:y", "K", "TRUST_ANCHOR"⟩)] ∧
      Did.parse "did:a:x:y" = .ok ⟨"a", "x:y"⟩ ∧
      (resolve ⟨sameName, (Transport.scripted []).logging⟩ "did:a:x:y" (0, [])).2.2 =
        [.read (.new "a" "http://a") "did:a:x:y"] ∧
      ∃ c, there.1 = .finished c ∧ c.did ≠ "did:a:x:y" := by
  intro service here there
  have hhere : create ⟨sameName, (Transport.scripted [.ok .null]).logging⟩
      ⟨"x:y", "K", some "a", none⟩ (0, []) =
        (.finished ⟨"did:a:x:y", "K", Document.build "did:a:x:y" "K"⟩, 1,
          [.create (.new "a" "http://a") (.nym "a" ⟨"x:y", "K", "TRUST_ANCHOR"⟩)]) := rfl
  have hthere : create ⟨sameName, (Transport.scripted [.ok .null]).logging⟩
      ⟨"x:y", "K", some "b", none⟩ (0, []) =
        (.finished ⟨"did:b:x:y", "K", Document.build "did:b:x:y" "K"⟩, 1,
          [.create (.new "b" "http://b") (.nym "b" ⟨"x:y", "K", "TRUST_ANCHOR"⟩)]) := rfl
  obtain ⟨e, r, hlog, -, hparse, -, -, hlater⟩ := create_finished_routes hhere
  cases hlog
  obtain ⟨-, -, -, htwice⟩ := hlater Nat (Transport.scripted [.ok .null]) 0 []
  refine ⟨congrArg Prod.fst hhere, congrArg (fun r => r.2.2) hhere, hparse,
    (hlater Nat (Transport.scripted []) 0 []).1, _, congrArg Prod.fst hthere, ?_⟩
  intro hsame
  exact absurd (htwice _ _ _ _ _ hthere hsame).1 (by decide)

end Service
end DidLedger
