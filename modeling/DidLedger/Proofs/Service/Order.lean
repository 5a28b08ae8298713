/-
  DidLedger/Proofs/Service/Order.lean
  ===================================
  **Operations on different DIDs can be carried out in any order.**

  The target of an operation is the DID that it is about; publications have none.
  It is the subject of the request that the operation makes
  (`Registry.subjectOf?_of_course`), so operations with different targets make
  requests that a ledger answers the same in either order.  A list of such
  operations may be carried out in any order: each of them reports what it would
  report alone (`reports_of_pairwise`), and the ledger holds the same in the end
  (`runAll_perm`).
-/
import DidLedger.Proofs.Ledger.Commuting

namespace DidLedger

open DidLedger.Ledger DidLedger.Credential

/-! ### Targets -/

namespace Registry

/-- The DID that an operation is about. -/
def target? (registry : Registry) : Operation → Option String
  | .create o =>
    match registry.select o.network with
    | .ok network => some ("did:" ++ network.name ++ ":" ++ o.methodSpecificId)
    | .error _ => none
  | .resolve did => some did
  | .update did _ => some did
  | .deactivate did => some did
  | _ => none

/-- Two operations are not about the same DID. -/
def Apart (registry : Registry) (a b : Operation) : Prop :=
  ∀ did, registry.target? a = some did → registry.target? b ≠ some did

instance (registry : Registry) : DecidableRel registry.Apart :=
  fun a b => decidable_of_iff (∀ did ∈ registry.target? a, registry.target? b ≠ some did) .rfl

variable {registry : Registry} {a b : Operation}

theorem Apart.symm (h : registry.Apart a b) : registry.Apart b a :=
  fun did hb ha => h did ha hb

theorem subjectOf?_createNym (network : Network) (o : NymOperation) :
    subjectOf? (Errand.create network (.nym network.name o)).request =
      some (Did.mk network.name o.dest).display := by
  have hdest : (operationIn (Transaction.nym network.name o).createBody).member "dest" =
      .string o.dest := by
    rw [operationIn, member_transaction_createBody, member_operation_nym, toJson_nymOperation]
    rfl
  rw [Store.subjectOf?_of_action (Store.ofRequest_create network _)]
  exact Store.nymIn?_of_asksForNym
    ⟨member_type_createBody _, member_network_createBody _, hdest⟩

theorem subjectOf?_createBody (network : Network) {t : Transaction} (hkind : t.kind ≠ .nym) :
    subjectOf? (Errand.create network t).request = none := by
  have hname : t.kind.name ≠ Kind.nym.name := fun h => hkind (Kind.name_injective h)
  rw [Store.subjectOf?_of_action (Store.ofRequest_create network t)]
  exact Store.nymIn?_of_type_ne (member_type_createBody t) hname

theorem subjectOf?_update (network : Network) (t : Transaction) (did : String) :
    subjectOf? (Errand.update network t did).request = some did := by
  rw [Store.subjectOf?_of_action (Store.ofRequest_update network t did), Action.subject?,
    member_id_updateBody]
  rfl

theorem subjectOf?_read (network : Network) (did : String) :
    subjectOf? (Errand.read network did).request = some did :=
  Store.subjectOf?_of_action (Store.ofRequest_readPath did .nym none)

theorem subjectOf?_delete (network : Network) (did : String) :
    subjectOf? (Errand.delete network did).request = some did :=
  Store.subjectOf?_of_action (Store.ofRequest_deletePath did none)

/-- **The subject of the request that an operation makes is the target of the operation.** -/
theorem subjectOf?_of_course {op : Operation} {errand : Errand} {conclude : Answer → Report}
    (h : registry.course op = .asking errand conclude) :
    subjectOf? errand.request = registry.target? op := by
  cases asks_of_course h with
  | create hselect =>
    simp only [target?, hselect]
    exact subjectOf?_createNym _ _
  | resolve _ => exact subjectOf?_read _ _
  | update _ _ => exact subjectOf?_update _ _ _
  | deactivate _ => exact subjectOf?_delete _ _
  | registerSchema _ => exact subjectOf?_createBody _ Kind.noConfusion
  | registerDefinition _ => exact subjectOf?_createBody _ Kind.noConfusion

theorem Apart.requests (h : registry.Apart a b) {errand errand' : Errand}
    {conclude conclude' : Answer → Report} (ha : registry.course a = .asking errand conclude)
    (hb : registry.course b = .asking errand' conclude') :
    Store.Apart errand.request errand'.request := by
  unfold Store.Apart
  rw [subjectOf?_of_course ha, subjectOf?_of_course hb]
  exact h

end Registry

/-! ### Two operations -/

namespace Service

variable {registry : Registry} {s t : Store} {a b : Operation}

theorem report_run_of_apart (h : registry.Apart a b) (s : Store) :
    (run ⟨registry, Store.transport⟩ (run ⟨registry, Store.transport⟩ s b).2 a).1 =
      (run ⟨registry, Store.transport⟩ s a).1 := by
  cases hb : registry.course b with
  | ended report => rw [run_of_ended hb]
  | asking errand' conclude' =>
    rw [run_of_asking hb]
    cases ha : registry.course a with
    | ended report => rw [run_of_ended ha, run_of_ended ha]
    | asking errand conclude =>
      have hanswer := Store.answer_handle_of_apart (s := s) (h.requests ha hb)
      rw [run_of_asking ha, run_of_asking ha, Store.transport_fst_congr errand.network hanswer]

/-- Two operations on different DIDs leave the same behind in either order. -/
theorem run_comm (hs : s.Filed) (h : registry.Apart a b) :
    (run ⟨registry, Store.transport⟩ (run ⟨registry, Store.transport⟩ s a).2 b).2.Like
      (run ⟨registry, Store.transport⟩ (run ⟨registry, Store.transport⟩ s b).2 a).2 := by
  cases ha : registry.course a with
  | ended report =>
    rw [run_of_ended ha, run_of_ended ha]
    exact .refl _
  | asking errand conclude =>
    rw [run_of_asking ha, run_of_asking ha]
    cases hb : registry.course b with
    | ended report =>
      rw [run_of_ended hb, run_of_ended hb]
      exact .refl _
    | asking errand' conclude' =>
      rw [run_of_asking hb, run_of_asking hb]
      exact Store.handle_comm hs (h.requests ha hb)

/-! ### Many operations -/

theorem alike_like (registry : Registry) (op : Operation) :
    Alike registry Store.transport Store.transport
      (fun s t => s.Like t ∧ s.Filed ∧ t.Filed) op := by
  rintro errand conclude - s t ⟨hlike, hs, ht⟩
  have hanswer := hlike.answer_eq errand.request
  refine ⟨Store.transport_fst_congr errand.network hanswer, ?_⟩
  rw [Store.transport_snd, Store.transport_snd]
  exact ⟨hlike.handle hs ht errand.request, hs.handle _, ht.handle _⟩

/-- **Each of many operations on different DIDs reports what it would report alone.** -/
theorem reports_of_pairwise {ops : List Operation} (h : ops.Pairwise registry.Apart) (s : Store) :
    (runAll ⟨registry, Store.transport⟩ s ops).1 =
      ops.map fun op => (run ⟨registry, Store.transport⟩ s op).1 := by
  induction h generalizing s with
  | nil => rfl
  | @cons op ops hop hops ih =>
    -- The rest report what each would alone after the first, which is on another DID.
    simp only [runAll, List.map_cons, ih]
    congr 1
    apply List.map_congr_left
    intro other hother
    exact report_run_of_apart (hop other hother).symm s

/-- **Operations on different DIDs leave the same behind in any order.** -/
theorem runAll_perm {ops ops' : List Operation} (hperm : ops.Perm ops') (hs : s.Filed)
    (h : ops.Pairwise registry.Apart) :
    (runAll ⟨registry, Store.transport⟩ s ops).2.Like
      (runAll ⟨registry, Store.transport⟩ s ops').2 := by
  induction hperm generalizing s with
  | nil => exact .refl s
  | cons op _ ih => exact ih (filed_run registry hs op) h.of_cons
  | swap a b ops =>
    have hapart : registry.Apart b a := List.rel_of_pairwise_cons h List.mem_cons_self
    -- After the two the stores are alike, and they stay so under the rest.
    have hba := filed_run registry (filed_run registry hs b) a
    have hab := filed_run registry (filed_run registry hs a) b
    exact (runAll_related (fun op _ => alike_like registry op)
      ⟨run_comm hs hapart, hba, hab⟩).2.1
  | trans hfirst _ ih ih' =>
    have hmiddle := (hfirst.pairwise_iff Registry.Apart.symm).1 h
    exact (ih hs h).trans (ih' hs hmiddle)

/-! ### Services that share a ledger -/

/-- The ledger after operations of services that share it, each with networks of its own. -/
def ledgerAfter (ledger : Store × List Call) (past : List (Registry × Operation)) :
    Store × List Call :=
  past.foldl (fun ledger step => (run ⟨step.1, Store.transport.recording⟩ ledger step.2).2) ledger

theorem filed_ledgerAfter {ledger : Store × List Call} (h : ledger.1.Filed)
    (past : List (Registry × Operation)) : (ledgerAfter ledger past).1.Filed := by
  induction past generalizing ledger with
  | nil => exact h
  | cons step past ih =>
    apply ih
    have hstore := (run_recording step.1 Store.transport ledger.1 ledger.2 step.2).2
    rw [hstore]
    exact filed_run step.1 h step.2

/-- **Operations on different DIDs commute**, on every ledger that services can
    have brought about: each reports what it would report alone, and in either
    order the same nyms and the same objects remain.  So do many operations on
    different DIDs, in any order. -/
theorem operations_commute (registry : Registry) (policy : DuplicatePolicy)
    (forced : Option UInt16) (past : List (Registry × Operation)) :
    let service : Service (Store × List Call) := ⟨registry, Store.transport.recording⟩
    let ledger := ledgerAfter (⟨[], [], policy, forced⟩, []) past
    (∀ a b, registry.Apart a b →
      let afterA := service.run ledger a
      let afterB := service.run ledger b
      (service.run afterB.2 a).1 = afterA.1 ∧ (service.run afterA.2 b).1 = afterB.1 ∧
        (service.run afterA.2 b).2.1.SameContents (service.run afterB.2 a).2.1) ∧
    ∀ ops ops', ops.Pairwise registry.Apart → ops.Perm ops' →
      let report (op : Operation) := (service.run ledger op).1
      (service.runAll ledger ops).1 = ops.map report ∧
        (service.runAll ledger ops').1 = ops'.map report ∧
        (service.runAll ledger ops).2.1.SameContents (service.runAll ledger ops').2.1 := by
  intro service ledger
  have hfiled : ledger.1.Filed := filed_ledgerAfter (.of_bodies_eq_nil rfl) past
  have hmany : ∀ ops ops', ops.Pairwise registry.Apart → ops.Perm ops' →
      let report (op : Operation) := (service.run ledger op).1
      (service.runAll ledger ops).1 = ops.map report ∧
        (service.runAll ledger ops').1 = ops'.map report ∧
        (service.runAll ledger ops).2.1.SameContents (service.runAll ledger ops').2.1 := by
    intro ops ops' hpairwise hperm report
    have hpairwise' := (hperm.pairwise_iff Registry.Apart.symm).1 hpairwise
    have hlike := runAll_perm hperm hfiled hpairwise
    obtain ⟨hreports, hstore⟩ := runAll_recording registry Store.transport ledger.1 ledger.2 ops
    obtain ⟨hreports', hstore'⟩ := runAll_recording registry Store.transport ledger.1 ledger.2 ops'
    have hreport : report = fun op => (run ⟨registry, Store.transport⟩ ledger.1 op).1 :=
      funext fun op => (run_recording registry Store.transport ledger.1 ledger.2 op).1
    refine ⟨?_, ?_, ?_⟩
    · rw [hreport, ← reports_of_pairwise hpairwise]
      exact hreports
    · rw [hreport, ← reports_of_pairwise hpairwise']
      exact hreports'
    · rw [← hstore, ← hstore'] at hlike
      exact hlike.sameContents
  refine ⟨?_, hmany⟩
  -- Two operations are a list of two.
  intro a b hapart afterA afterB
  have hpairwise : [a, b].Pairwise registry.Apart := List.pairwise_pair.2 hapart
  obtain ⟨hab, hba, hcontents⟩ := hmany [a, b] [b, a] hpairwise (.swap b a [])
  refine ⟨?_, ?_, hcontents⟩
  · exact List.head_eq_of_cons_eq (List.tail_eq_of_cons_eq hba)
  · exact List.head_eq_of_cons_eq (List.tail_eq_of_cons_eq hab)

def twoNetworks : Registry :=
  ⟨[.new "testnet" "http://testnet", .new "mainnet" "http://mainnet"]⟩

/-- One identifier on two networks, and a key for a DID that is there already. -/
def threeTargets : List Operation :=
  [.create ⟨"demo", "K", none, none⟩, .create ⟨"demo", "L", some "mainnet", none⟩,
    .update "did:testnet:old" ⟨some "M", none⟩]

theorem operations_commute_threeTargets :
    let service : Service (Store × List Call) := ⟨twoNetworks, Store.transport.recording⟩
    let ledger := ledgerAfter (Store.empty .reject, [])
      [(twoNetworks, .create ⟨"old", "J", none, none⟩)]
    threeTargets.Pairwise twoNetworks.Apart ∧
      (service.runAll ledger threeTargets.reverse).1 =
        [.updated (.finished ()),
          .created (.finished ⟨"did:mainnet:demo", "L", Document.build "did:mainnet:demo" "L"⟩),
          .created (.finished ⟨"did:testnet:demo", "K", Document.build "did:testnet:demo" "K"⟩)] ∧
      (service.runAll ledger threeTargets).2.1.SameContents
        (service.runAll ledger threeTargets.reverse).2.1 := by
  intro service ledger
  have hapart : threeTargets.Pairwise twoNetworks.Apart := by decide
  obtain ⟨-, hreports, hcontents⟩ := (operations_commute twoNetworks .reject none
    [(twoNetworks, .create ⟨"old", "J", none, none⟩)]).2 _ _ hapart threeTargets.reverse_perm.symm
  exact ⟨hapart, hreports.trans rfl, hcontents⟩

end Service
end DidLedger
