/-
  DidLedger/Proofs/Ledger/ReadBack.lean
  =====================================
  **What was written last is what the next resolution shows.**

  A finished write has put a nym under the DID, whatever the ledger held before.
  The resolution after it asks the same ledger for the same DID, so its document
  is built from the key that was put there: the key of the options after a
  creation (`resolve_of_created`), and the key of the fields after an update,
  unless that is the text that stands for no change (`resolve_of_updated`).

  A key is handed in as text and taken out of the document as bytes.  The text of
  bytes in base 58 is read back as the same bytes, and no 32 bytes have the text
  that stands for no change, because that one is the text of seven bytes.
-/
import DidLedger.Proofs.Ledger.Directory
import DidLedger.Proofs.Ledger.Steps
import DidLedger.Proofs.Text.Base58

namespace DidLedger

open DidLedger.Ledger DidLedger.Text

/-! ### Finished writes -/

theorem Ledger.Store.handle_of_transport (network : Network) {r : Request} {s s' : Store}
    {answer : Json} (h : Store.transport network r s = (.ok answer, s')) :
    s.handle r = (.ok answer, s') := by
  unfold Store.transport at h
  split at h
  · rename_i value t hhandle
    cases h
    exact hhandle
  · cases h

/-- A ledger that answers takes requests. -/
theorem Ledger.Store.forced_of_handle {r : Request} {s s' : Store} {answer : Json}
    (h : s.handle r = (.ok answer, s')) : s.forced = none := by
  cases hforced : s.forced with
  | none => rfl
  | some status =>
    rw [handle_of_forced hforced] at h
    cases h

namespace Service

variable {registry : Registry} {s s' : Store}

theorem resolve_of_nym? (hforced : s.forced = none) {did : String} {parsed : Did}
    {network : Network} (hlocate : registry.locate did = .ok (parsed, network)) {l : Listing}
    (hnym : s.nym? did = some (l.nym did)) :
    resolve ⟨registry, Store.transport⟩ did s = (.found (Document.build did l.verkey), s) := by
  have hplan := Registry.planResolve_eq_ok_iff.2 ⟨parsed, network, hlocate, rfl⟩
  have hhandle : s.handle (Errand.read network did).request = s.read did Kind.nym.name :=
    Store.handle_readPath hforced did .nym none
  simp only [Store.read, if_true, hnym] at hhandle
  have hread : Store.transport (Errand.read network did).network
      (Errand.read network did).request s = _ := Store.transport_of_ok hhandle
  simp only [resolve, hplan, hread, Directory.documentOf_nym]

theorem resolve_putNym (hforced : s.forced = none) {did : String} {parsed : Did}
    {network : Network} (hlocate : registry.locate did = .ok (parsed, network)) (l : Listing) :
    resolve ⟨registry, Store.transport⟩ did (s.putNym (l.nym did)) =
      (.found (Document.build did l.verkey), s.putNym (l.nym did)) := by
  have hput : (s.putNym (l.nym did)).forced = none := hforced
  exact resolve_of_nym? hput hlocate ((Store.nym?_putNym s _ did).trans (if_pos rfl))

/-- **After a creation the DID is found with the key of the options.** -/
theorem resolve_of_created {o : CreateOptions} {c : CreatedDid}
    (h : create ⟨registry, Store.transport⟩ o s = (.finished c, s')) :
    resolve ⟨registry, Store.transport⟩ c.did s' =
      (.found (Document.build c.did o.verkey), s') := by
  obtain ⟨plan, answer, hplan, rfl, hanswer⟩ := answer_of_finished h
  obtain ⟨-, network, hselect, hholds, rfl⟩ := Registry.planCreate_eq_ok_iff.1 hplan
  have hlocate : registry.locate (Registry.creationPlan o network).result.did =
      .ok (⟨network.name, o.methodSpecificId⟩, network) :=
    Registry.locate_eq_ok_iff.2 ⟨Network.holds_iff.1 hholds, Registry.find_of_select hselect⟩
  have hhandle := Store.handle_of_transport network hanswer
  have hforced := Store.forced_of_handle hhandle
  have herrand : (Registry.creationPlan o network).errand =
      Errand.create network (.nym network.name (Registry.creation o)) := rfl
  rw [herrand, Store.handle_createNym hforced] at hhandle
  split at hhandle
  · cases hhandle
  · cases hhandle
    exact resolve_putNym hforced hlocate ⟨o.verkey, o.role.getD defaultRole⟩

theorem document_of_created {σ : Type} {service : Service σ} {o : CreateOptions} {c : CreatedDid}
    {s s' : σ} (h : service.create o s = (.finished c, s')) :
    c.document = Document.build c.did o.verkey := by
  obtain ⟨plan, hplan, rfl⟩ := plan_of_finished h
  obtain ⟨-, network, -, -, rfl⟩ := Registry.planCreate_eq_ok_iff.1 hplan
  rfl

/-- The key of a nym after an update, which changes it or keeps it. -/
def keyAfter (old : String) (fields : UpdateFields) : String :=
  match fields.verkey with
  | none => old
  | some verkey => if verkey = unchangedVerkey then old else verkey

theorem revised_eq_nym (n : Nym) (parsed : Did) (fields : UpdateFields) :
    n.revised (Registry.change parsed fields) =
      (Listing.mk (keyAfter n.verkey fields) (fields.role.getD defaultRole)).nym n.did := by
  cases fields with
  | mk verkey role =>
    cases verkey with
    | none => rfl
    | some verkey => rfl

/-- **After an update the DID is found with the key of the fields**, and with the
    key that it had where they keep it. -/
theorem resolve_of_updated {did : String} {fields : UpdateFields}
    (h : update ⟨registry, Store.transport⟩ did fields s = (.finished (), s')) :
    ∃ n, s.nym? did = some n ∧ resolve ⟨registry, Store.transport⟩ did s' =
      (.found (Document.build did (keyAfter n.verkey fields)), s') := by
  obtain ⟨plan, answer, hplan, -, hanswer⟩ := answer_of_finished h
  obtain ⟨parsed, network, hlocate, rfl⟩ := Registry.planUpdate_eq_ok_iff.1 hplan
  have hhandle := Store.handle_of_transport network hanswer
  have hforced := Store.forced_of_handle hhandle
  rw [Store.handle_updateNym hforced] at hhandle
  cases hnym : s.nym? did with
  | none =>
    rw [hnym] at hhandle
    cases hhandle
  | some n =>
    rw [hnym] at hhandle
    cases hhandle
    refine ⟨n, rfl, ?_⟩
    rw [revised_eq_nym, Store.did_of_nym? hnym]
    exact resolve_putNym hforced hlocate _

end Service

/-! ### Keys as bytes -/

/-- A document whose authentication key has the given bytes. -/
def Document.Authenticates (d : Document) (bytes : List UInt8) : Prop :=
  ∃ method, d.authenticationKey? = some method ∧ method.keyBytes = .ok bytes

theorem Document.authenticates_build (did : String) (bytes : List UInt8) :
    (build did (Base58.encode bytes)).Authenticates bytes := by
  refine ⟨⟨keyId did, .ed25519, did, Base58.encode bytes⟩, ?_, ?_⟩
  · simp [authenticationKey?, findMethod?, build, addAuthentication, addMethod, new]
  · simp [VerificationMethod.keyBytes, Base58.decode?_encode]

/-- The text that stands for no change is the text of seven bytes only. -/
theorem encode_ne_unchangedVerkey {bytes : List UInt8} (h : bytes.length = 32) :
    Base58.encode bytes ≠ unchangedVerkey := by
  intro htext
  have hbytes := Base58.decode?_encode bytes
  rw [htext] at hbytes
  have hseven : (Base58.decode? unchangedVerkey).map List.length = some 7 := by decide +kernel
  rw [hbytes, Option.map_some, h] at hseven
  exact absurd hseven (by decide)

namespace Service

/-- **A key is found again byte for byte** after it was registered, and after it
    was changed to 32 bytes. -/
theorem resolve_authenticates (registry : Registry) (s : Store) :
    let service : Service Store := ⟨registry, Store.transport⟩
    (∀ (bytes : List UInt8) (o : CreateOptions) (c : CreatedDid) (s' : Store),
      o.verkey = Base58.encode bytes → service.create o s = (.finished c, s') →
        ∃ d, (service.resolve c.did s').1 = .found d ∧ d.Authenticates bytes) ∧
    (∀ (bytes : List UInt8) (did : String) (fields : UpdateFields) (s' : Store),
      bytes.length = 32 → fields.verkey = some (Base58.encode bytes) →
      service.update did fields s = (.finished (), s') →
        ∃ d, (service.resolve did s').1 = .found d ∧ d.Authenticates bytes) := by
  intro service
  constructor
  · intro bytes o c s' hverkey hcreate
    refine ⟨_, congrArg Prod.fst (resolve_of_created hcreate), ?_⟩
    rw [hverkey]
    exact Document.authenticates_build c.did bytes
  · intro bytes did fields s' hlength hverkey hupdate
    obtain ⟨n, -, hresolve⟩ := resolve_of_updated hupdate
    refine ⟨_, congrArg Prod.fst hresolve, ?_⟩
    have hkey : keyAfter n.verkey fields = Base58.encode bytes := by
      rw [keyAfter, hverkey]
      exact if_neg (encode_ne_unchangedVerkey hlength)
    rw [hkey]
    exact Document.authenticates_build did bytes

/-- A key that begins with zero bytes, and a change to one of 32 bytes. -/
theorem resolve_authenticates_zerosFirst :
    let service : Service Store := ⟨⟨[.new "testnet" "http://ledger"]⟩, Store.transport⟩
    ∃ c s s', service.create (.new "demo123" (Base58.encode [0, 0, 58])) (.empty .reject) =
        (.finished c, s) ∧
      (∃ d, (service.resolve c.did s).1 = .found d ∧ d.Authenticates [0, 0, 58]) ∧
      service.update c.did ⟨some (Base58.encode (List.replicate 32 255)), none⟩ s =
        (.finished (), s') ∧
      ∃ d, (service.resolve c.did s').1 = .found d ∧ d.Authenticates (List.replicate 32 255) := by
  intro service
  let registered : Store := (Store.empty .reject).putNym
    ⟨"did:testnet:demo123", "1121", .string "TRUST_ANCHOR"⟩
  have hfirst : Base58.encode [0, 0, 58] = "1121" := by decide +kernel
  have hcreate : service.create (.new "demo123" (Base58.encode [0, 0, 58])) (.empty .reject) =
      (.finished ⟨"did:testnet:demo123", "1121", Document.build "did:testnet:demo123" "1121"⟩,
        registered) := by
    rw [hfirst]
    rfl
  obtain ⟨s', hupdate⟩ : ∃ s', service.update "did:testnet:demo123"
      ⟨some (Base58.encode (List.replicate 32 255)), none⟩ registered = (.finished (), s') :=
    ⟨_, rfl⟩
  refine ⟨_, _, s', hcreate, ?_, hupdate, ?_⟩
  · exact (resolve_authenticates service.registry _).1 [0, 0, 58] _ _ _ rfl hcreate
  · exact (resolve_authenticates service.registry _).2 (List.replicate 32 255) _ _ _ rfl rfl hupdate

end Service
end DidLedger
