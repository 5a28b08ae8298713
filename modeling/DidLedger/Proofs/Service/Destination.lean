/-
  DidLedger/Proofs/Service/Destination.lean
  =========================================
  **Under which identifier a nym is written.**

  An operation on a nym carries the identifier that it is about (`dest?`).
  Creation carries the identifier of the DID as it was handed in.  An update reads
  the DID again and carries the last segment of its identifier only, which is the
  identifier itself exactly when that holds no colon.  So the two write to the
  same nym for identifiers without a colon and for no others.
-/
import DidLedger.Proofs.Did.LastSegment
import DidLedger.Proofs.Ledger.Requests
import DidLedger.Proofs.Service.Routing

namespace DidLedger

open DidLedger.Ledger

/-! ### Destinations in requests -/

/-- The identifier that the operation in the body of a request is about. -/
def Errand.dest? (errand : Errand) : Option String :=
  let body := errand.request.body.getD .null
  (((body.member "transaction").member "operation").member "dest").text?

theorem dest?_operation (network : String) (o : NymOperation) :
    (((Transaction.nym network o).content.member "operation").member "dest").text? =
      some o.dest := by
  rw [member_operation_nym, toJson_nymOperation]
  simp [Json.member, Json.text?]

theorem Errand.dest?_create (network : Network) (name : String) (o : NymOperation) :
    (Errand.create network (.nym name o)).dest? = some o.dest := by
  simp only [dest?, Errand.create, Option.getD_some, member_transaction_createBody,
    dest?_operation]

theorem Errand.dest?_update (network : Network) (name did : String) (o : NymOperation) :
    (Errand.update network (.nym name o) did).dest? = some o.dest := by
  simp only [dest?, Errand.update, Option.getD_some, member_transaction_updateBody,
    dest?_operation]

namespace Service

variable {σ : Type} {registry : Registry} {transport : Transport σ}

/-- **Creation writes to the whole identifier and every later update to its last
    segment**, and so both write to the same nym exactly when the identifier
    holds no colon. -/
theorem create_update_dest {o : CreateOptions} {c : CreatedDid} {s s' : σ}
    {log log' : List Errand}
    (h : create ⟨registry, transport.logging⟩ o (s, log) = (.finished c, s', log')) :
    ∃ sent, log' = log ++ [sent] ∧ sent.dest? = some o.methodSpecificId ∧
      ∀ (τ : Type) (later : Transport τ) (t : τ) (past : List Errand) (fields : UpdateFields),
        ∃ request dest,
          (update ⟨registry, later.logging⟩ c.did fields (t, past)).2.2 = past ++ [request] ∧
          request.dest? = some dest ∧ ':' ∉ dest.toList ∧
          (o.methodSpecificId = dest ∨ ∃ front, o.methodSpecificId = front ++ ":" ++ dest) ∧
          (request.dest? = sent.dest? ↔ ':' ∉ o.methodSpecificId.toList) := by
  obtain ⟨e, hlog, hcreated⟩ := creation_of_finished h
  refine ⟨_, hlog, Errand.dest?_create e e.name (Registry.creation o), ?_⟩
  intro τ later t past fields
  refine ⟨_, Did.afterLastColon o.methodSpecificId,
    update_logging hcreated.locate_eq fields t past, Errand.dest?_update _ _ _ _,
    Did.notMem_afterLastColon _, ?_, ?_⟩
  · by_cases hcolon : ':' ∈ o.methodSpecificId.toList
    · exact .inr (Did.exists_front_of_mem hcolon).2
    · exact .inl (Did.afterLastColon_of_notMem hcolon).symm
  · rw [Errand.dest?_create, Errand.dest?_update, Option.some.injEq]
    exact Did.afterLastColon_eq_self_iff

/-- An identifier of two segments, on the first network. -/
def twoSegments : CreateOptions := .new "pool1:demo123" "K"

def oneNetwork : Registry := ⟨[.new "testnet" "http://ledger"]⟩

theorem create_twoSegments :
    create ⟨oneNetwork, (Transport.scripted []).logging⟩ twoSegments (0, []) =
      (.finished ⟨"did:testnet:pool1:demo123", "K", Document.build "did:testnet:pool1:demo123" "K"⟩,
        1, [.create (.new "testnet" "http://ledger")
          (.nym "testnet" ⟨"pool1:demo123", "K", "TRUST_ANCHOR"⟩)]) := rfl

theorem update_twoSegments :
    (update ⟨oneNetwork, (Transport.scripted []).logging⟩ "did:testnet:pool1:demo123" .empty
      (1, [])).2.2 = [.update (.new "testnet" "http://ledger")
        (.nym "testnet" ⟨"demo123", "unchanged", "TRUST_ANCHOR"⟩) "did:testnet:pool1:demo123"] := rfl

theorem create_update_dest_twoSegments :
    create ⟨oneNetwork, (Transport.scripted []).logging⟩ twoSegments (0, []) =
        (.finished ⟨"did:testnet:pool1:demo123", "K",
          Document.build "did:testnet:pool1:demo123" "K"⟩, 1,
          [.create (.new "testnet" "http://ledger")
            (.nym "testnet" ⟨"pool1:demo123", "K", "TRUST_ANCHOR"⟩)]) ∧
      ∃ request,
        (update ⟨oneNetwork, (Transport.scripted []).logging⟩ "did:testnet:pool1:demo123" .empty
          (1, [])).2.2 = [request] ∧ request.dest? ≠ some "pool1:demo123" := by
  refine ⟨create_twoSegments, ?_⟩
  obtain ⟨sent, -, hsent, hlater⟩ := create_update_dest create_twoSegments
  obtain ⟨request, -, hrequest, -, -, -, hsame⟩ := hlater Nat (Transport.scripted []) 1 [] .empty
  refine ⟨request, hrequest, ?_⟩
  intro hdest
  exact absurd (hsame.1 (hdest.trans hsent.symm)) (by decide)

/-- The update of a created DID carries another identifier than its creation. -/
theorem update_dest_ne_create_dest :
    ∃ created sent request,
      create ⟨oneNetwork, (Transport.scripted []).logging⟩ twoSegments (0, []) =
        (.finished created, 1, [sent]) ∧
      (update ⟨oneNetwork, (Transport.scripted []).logging⟩ created.did .empty (1, [])).2.2 =
        [request] ∧
      request.dest? ≠ sent.dest? := by
  refine ⟨_, _, _, create_twoSegments, update_twoSegments, ?_⟩
  rw [Errand.dest?_create, Errand.dest?_update]
  decide

end Service
end DidLedger
