/-
  DidLedger/Proofs/Ledger/Requests.lean
  =====================================
  **What a ledger does with the requests of a service.**

  A service submits bodies of a fixed form and names objects in percent-coded
  paths.  The ledger takes such a body apart again and finds in it what was put
  in, and it decodes from a path the very identifier that was written there, so
  the answer to each request can be said without bodies and paths: a new nym is
  stored under the text of its DID (`handle_createNym`), an update revises the
  nym of the DID (`handle_updateNym`), and reads and deletions are about the
  identifier itself (`handle_readPath`, `handle_deletePath`).

  The contents of the store are spoken of through `nym?` alone.
-/
import DidLedger.Ledger.Store
import DidLedger.Proofs.Text.Percent
import DidLedger.Service.Plan

namespace DidLedger.Ledger

open DidLedger DidLedger.Text

/-! ### Nyms in a store -/

namespace Store

variable {s : Store}

theorem did_of_nym? {did : String} {n : Nym} (h : s.nym? did = some n) : n.did = did := by
  have hfound := List.find?_some h
  exact beq_iff_eq.1 hfound

theorem nym?_removeNym (s : Store) (id did : String) :
    (s.removeNym id).nym? did = if did = id then none else s.nym? did := by
  simp only [nym?, removeNym, List.find?_filter]
  split
  · rename_i heq
    subst heq
    rw [List.find?_eq_none]
    intro n _
    simp
  · rename_i hne
    congr 1
    funext n
    by_cases hn : n.did = did
    · simp [hn, hne]
    · simp [hn]

theorem nym?_putNym (s : Store) (n : Nym) (did : String) :
    (s.putNym n).nym? did = if did = n.did then some n else s.nym? did := by
  have hcons : (s.putNym n).nym? did =
      if n.did = did then some n else (s.removeNym n.did).nym? did := by
    simp only [nym?, putNym, List.find?_cons]
    by_cases h : n.did = did
    · simp [h]
    · rw [if_neg h, beq_eq_false_iff_ne.2 h]
  rw [hcons, nym?_removeNym]
  by_cases h : did = n.did
  · rw [if_pos h.symm, if_pos h]
  · rw [if_neg (Ne.symm h), if_neg h, if_neg h]

end Store

/-! ### What is in a body -/

theorem Kind.name_injective {kind other : Kind} (h : kind.name = other.name) : kind = other := by
  cases kind <;> cases other <;> simp_all [name]

theorem toJson_nymOperation (o : NymOperation) :
    NymOperation.shape.toJson o =
      .object [("dest", .string o.dest), ("role", .string o.role),
        ("verkey", .string o.verkey)] := by
  have hwrite : NymOperation.shape.write o =
      .object [("dest", .string o.dest), ("verkey", .string o.verkey),
        ("role", .string o.role)] := by
    simp only [NymOperation.shape, Shape.write, Fields.write, Field.required, Bool.false_eq_true,
      if_false]
  have hverkey : ¬ "verkey" < "dest" := by decide
  have hrole : ¬ "role" < "dest" := by decide
  have hbetween : "role" < "verkey" := by decide
  rw [Shape.toJson, hwrite]
  simp only [Json.sorted, Json.sortedMembers, Json.sortMembers, List.foldl_cons, List.foldl_nil,
    Json.insertMember, hverkey, hrole, hbetween, String.reduceEq, if_true, if_false]

theorem member_type_createBody (t : Transaction) :
    t.createBody.member "type" = .string t.kind.name := by
  simp [Transaction.createBody, Json.member, List.lookup_cons]

theorem member_network_createBody (t : Transaction) :
    t.createBody.member "network" = .string t.network := by
  simp [Transaction.createBody, Json.member]

theorem member_transaction_createBody (t : Transaction) :
    t.createBody.member "transaction" = t.content := by
  simp [Transaction.createBody, Json.member, List.lookup_cons]

theorem member_id_updateBody (t : Transaction) (id : String) :
    (t.updateBody id).member "id" = .string id := by
  simp [Transaction.updateBody, Json.member]

theorem member_transaction_updateBody (t : Transaction) (id : String) :
    (t.updateBody id).member "transaction" = t.content := by
  simp [Transaction.updateBody, Json.member, List.lookup_cons]

theorem member_operation_nym (network : String) (o : NymOperation) :
    (Transaction.nym network o).content.member "operation" = NymOperation.shape.toJson o := by
  simp [Transaction.nym, Json.member]

/-- The nym that an operation on a network creates. -/
def Nym.ofOperation (network : String) (o : NymOperation) : Nym :=
  ⟨(Did.mk network o.dest).display, o.verkey, .string o.role⟩

/-- A nym after an update by an operation. -/
def Nym.revised (n : Nym) (o : NymOperation) : Nym :=
  ⟨n.did, if o.verkey = unchangedVerkey then n.verkey else o.verkey, .string o.role⟩

namespace Store

variable {s : Store}

theorem createNym_toJson (s : Store) (network : String) (o : NymOperation) :
    s.createNym network (NymOperation.shape.toJson o) =
      if s.policy = .reject ∧ (s.nym? (Did.mk network o.dest).display).isSome then
        (.error ⟨409, s!"nym {(Did.mk network o.dest).display} already exists"⟩, s)
      else
        (.ok (acceptedNym (Did.mk network o.dest).display),
          s.putNym (Nym.ofOperation network o)) := by
  rw [toJson_nymOperation]
  simp [createNym, Json.member, List.lookup_cons, Json.text?, Nym.ofOperation]

theorem revise_toJson (n : Nym) (o : NymOperation) :
    revise n (NymOperation.shape.toJson o) = n.revised o := by
  rw [toJson_nymOperation]
  simp [revise, Json.member, List.lookup_cons, Json.text?, Nym.revised]

theorem transport_of_ok {network : Network} {r : Request} {answer : Json} {s' : Store}
    (h : s.handle r = (.ok answer, s')) : transport network r s = (.ok answer, s') := by
  simp only [transport, h]

theorem transport_of_error {network : Network} {r : Request} {rejection : Rejection} {s' : Store}
    (h : s.handle r = (.error rejection, s')) :
    transport network r s = (.error (.rejected rejection.status rejection.body), s') := by
  simp only [transport, h]

theorem transport_snd (network : Network) (r : Request) (s : Store) :
    (transport network r s).2 = (s.handle r).2 := by
  unfold transport
  cases s.handle r with
  | mk result s' =>
    cases result with
    | ok answer => rfl
    | error rejection => rfl

theorem transport_fst_congr {t : Store} {r : Request} (network : Network)
    (h : (s.handle r).1 = (t.handle r).1) :
    (transport network r s).1 = (transport network r t).1 := by
  unfold transport
  cases hs : s.handle r with
  | mk result s' =>
    cases ht : t.handle r with
    | mk result' t' =>
      rw [hs, ht] at h
      obtain rfl : result = result' := h
      cases result with
      | ok answer => rfl
      | error rejection => rfl

/-! ### Requests of a service -/

theorem ofRequest_create (network : Network) (t : Transaction) :
    Action.ofRequest (Errand.create network t).request = .ok (.create t.createBody) := rfl

theorem ofRequest_update (network : Network) (t : Transaction) (id : String) :
    Action.ofRequest (Errand.update network t id).request = .ok (.update (t.updateBody id)) := rfl

theorem decodeSegment_encode (id : String) :
    decodeSegment (Percent.encode id).toList = .ok id := by
  unfold decodeSegment
  rw [String.ofList_toList, Percent.decode?_encode]

/-- **A read path is about the identifier that was written into it.** -/
theorem ofRequest_readPath (id : String) (kind : Kind) (body : Option Json) :
    Action.ofRequest ⟨.get, readPath id kind, body⟩ = .ok (.read id kind.name) := by
  have hrest : Split.after? readRoot.toList (readPath id kind).toList =
      some ((Percent.encode id).toList ++ '/' :: kind.name.toList) := by
    rw [Split.after?_eq_some_iff]
    simp [readPath]
  have hcut : Split.atFirst? (· == '/') ((Percent.encode id).toList ++ '/' :: kind.name.toList) =
      some ((Percent.encode id).toList, kind.name.toList) := by
    apply Split.atFirst?_append _ rfl
    intro c hc
    exact beq_eq_false_iff_ne.2 fun heq => Percent.slash_notMem_encode id (heq ▸ hc)
  simp only [Action.ofRequest, hrest, hcut, decodeSegment_encode, Except.map, String.ofList_toList]

/-- **A deletion path is about the identifier that was written into it.** -/
theorem ofRequest_deletePath (id : String) (body : Option Json) :
    Action.ofRequest ⟨.delete, deletePath id, body⟩ = .ok (.delete id) := by
  have hrest : Split.after? deleteRoot.toList (deletePath id).toList =
      some (Percent.encode id).toList := by
    rw [Split.after?_eq_some_iff]
    simp [deletePath]
  simp only [Action.ofRequest, hrest, decodeSegment_encode, Except.map]

/-- A ledger that takes requests carries out the action that a request names. -/
theorem handle_of_action (hforced : s.forced = none) {r : Request} {action : Action}
    (haction : Action.ofRequest r = .ok action) : s.handle r = s.perform action := by
  unfold handle
  rw [hforced]
  simp only [haction]

/-- **A new nym is stored under the text of its DID, unless the policy rejects it.** -/
theorem handle_createNym (hforced : s.forced = none) (network : Network) (name : String)
    (o : NymOperation) :
    s.handle (Errand.create network (.nym name o)).request =
      if s.policy = .reject ∧ (s.nym? (Did.mk name o.dest).display).isSome then
        (.error ⟨409, s!"nym {(Did.mk name o.dest).display} already exists"⟩, s)
      else (.ok (acceptedNym (Did.mk name o.dest).display), s.putNym (Nym.ofOperation name o)) := by
  rw [handle_of_action hforced (ofRequest_create network (.nym name o))]
  simp only [perform, create, member_type_createBody, member_network_createBody,
    member_transaction_createBody, Json.text?]
  have hkind : (Transaction.nym name o).kind.name = Kind.nym.name := rfl
  rw [if_pos hkind, member_operation_nym]
  exact createNym_toJson s name o

/-- A body of any other kind is filed. -/
theorem handle_createBody (hforced : s.forced = none) (network : Network) (t : Transaction)
    (hkind : t.kind ≠ .nym) :
    s.handle (Errand.create network t).request =
      (.ok accepted, s.addBody t.kind.name t.createBody) := by
  have hname : t.kind.name ≠ Kind.nym.name := fun h => hkind (Kind.name_injective h)
  rw [handle_of_action hforced (ofRequest_create network t)]
  simp only [perform, create, member_type_createBody, member_network_createBody, Json.text?]
  rw [if_neg hname]

/-- **An update revises the nym that is stored under the DID.** -/
theorem handle_updateNym (hforced : s.forced = none) (network : Network) (name id : String)
    (o : NymOperation) :
    s.handle (Errand.update network (.nym name o) id).request =
      match s.nym? id with
      | none => (.error (unknownNym id), s)
      | some n => (.ok accepted, s.putNym (n.revised o)) := by
  rw [handle_of_action hforced (ofRequest_update network (.nym name o) id)]
  cases hnym : s.nym? id with
  | none => simp only [perform, update, member_id_updateBody, Json.text?, hnym]
  | some n =>
    simp only [perform, update, member_id_updateBody, member_transaction_updateBody,
      member_operation_nym, revise_toJson, Json.text?, hnym]

theorem handle_readPath (hforced : s.forced = none) (id : String) (kind : Kind)
    (body : Option Json) :
    s.handle ⟨.get, readPath id kind, body⟩ = s.read id kind.name :=
  handle_of_action hforced (ofRequest_readPath id kind body)

theorem handle_deletePath (hforced : s.forced = none) (id : String) (body : Option Json) :
    s.handle ⟨.delete, deletePath id, body⟩ = s.delete id :=
  handle_of_action hforced (ofRequest_deletePath id body)

end Store
end DidLedger.Ledger
