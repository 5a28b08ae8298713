/-
  DidLedger/Proofs/Ledger/Keys.lean
  =================================
  **Where an empty key comes from.**

  Creation wants a key that is not empty, but an update stores whatever key it is
  given.  So an update that is carried out with an empty key (`Blanks`) leaves a
  nym without a key behind, and nothing else does: in a run from an empty ledger
  every nym has a key at all times, and every document that is found has one,
  exactly when no call of the run blanks a key.

  One operation is looked at in the directory that describes the store
  (`Directory.Keyed.step`, `Directory.resolve_of_blanked`); the calls of an agent
  come down to operations.
-/
import DidLedger.Proofs.Facade.Calls
import DidLedger.Proofs.Ledger.Directory
import Mathlib.Tactic.TFAE

namespace DidLedger

open DidLedger.Ledger DidLedger.Credential DidLedger.Facade

/-! ### Nyms and documents with a key -/

/-- Every nym of the store has a key. -/
def Ledger.Store.Keyed (s : Store) : Prop :=
  ∀ did n, s.nym? did = some n → n.verkey ≠ ""

/-- Every verification method of the document has a key. -/
def Document.Keyed (d : Document) : Prop :=
  ∀ method ∈ d.verificationMethod, method.publicKeyBase58 ≠ ""

theorem Document.keyed_build_iff {did key : String} : (build did key).Keyed ↔ key ≠ "" := by
  unfold Keyed
  simp only [build, addAuthentication, addMethod, new, List.nil_append, List.forall_mem_singleton]

/-- An update with an empty key was carried out. -/
def Operation.Blanks : Operation → Report → Prop
  | .update _ fields, .updated outcome => fields.verkey = some "" ∧ outcome = .finished ()
  | _, _ => False

/-- An update with an empty key was carried out, through whichever part. -/
def Facade.Agent.Call.Blanks : Agent.Call → Agent.Reply → Prop
  | .operation op, .report report => op.Blanks report
  | .update o, .registration result =>
    o.options.verkey = some "" ∧ result.didState.state = .finished
  | _, _ => False

/-! ### Directories -/

namespace Directory

variable {networks : List Network} {policy : DuplicatePolicy} {m : Directory}

def Keyed (m : Directory) : Prop :=
  ∀ did l, m did = some l → l.verkey ≠ ""

theorem keyed_empty : Keyed empty := by
  intro did l hl
  cases hl

theorem Describes.keyed_iff {s : Store} (h : Describes policy m s) : s.Keyed ↔ m.Keyed := by
  constructor
  · intro hs did l hl
    apply hs did (l.nym did)
    rw [h.nym?_eq, hl, Option.map_some]
  · intro hm did n hn
    rw [h.nym?_eq, Option.map_eq_some_iff] at hn
    obtain ⟨l, hl, rfl⟩ := hn
    exact hm did l hl

theorem Keyed.put (hm : m.Keyed) (did : String) {entry : Option Listing}
    (hentry : ∀ l, entry = some l → l.verkey ≠ "") : Keyed (Function.update m did entry) := by
  intro other l hother
  by_cases heq : other = did
  · rw [heq, Function.update_self] at hother
    exact hentry l hother
  · rw [Function.update_of_ne heq] at hother
    exact hm other l hother

theorem revise_verkey_ne {l : Listing} (hl : l.verkey ≠ "") {fields : UpdateFields}
    (hfields : fields.verkey ≠ some "") : (revise l fields).verkey ≠ "" := by
  cases hverkey : fields.verkey with
  | none =>
    simp only [revise, hverkey]
    exact hl
  | some verkey =>
    simp only [revise, hverkey]
    split
    · exact hl
    · rintro rfl
      exact hfields hverkey

theorem verkey_revise_of_empty (l : Listing) {fields : UpdateFields}
    (hfields : fields.verkey = some "") : (revise l fields).verkey = "" := by
  simp [revise, hfields]

/-- A change is carried out where the DID is listed. -/
theorem change_eq_done_iff {did : String} {f : Listing → Option Listing} :
    (change networks did f m).1 = .done ↔ addresses networks did = true ∧ ∃ l, m did = some l := by
  unfold change
  cases addresses networks did <;> cases m did <;> simp

theorem Keyed.change (hm : m.Keyed) {did : String} {f : Listing → Option Listing}
    (hf : (change networks did f m).1 = .done →
      ∀ l l', l.verkey ≠ "" → f l = some l' → l'.verkey ≠ "") :
    (change networks did f m).2.Keyed := by
  by_cases hdone : (Directory.change networks did f m).1 = .done
  · obtain ⟨haddresses, l, hlisting⟩ := change_eq_done_iff.1 hdone
    simp only [Directory.change, haddresses, hlisting]
    apply hm.put did
    intro l' hl'
    exact hf hdone l l' (hm did l hlisting) hl'
  · rw [change_eq_done_iff] at hdone
    unfold Directory.change
    split
    · rename_i l haddresses hlisting
      exact absurd ⟨haddresses, l, hlisting⟩ hdone
    · exact hm

/-- **A step keeps the keys of all listings unless it is an update with an empty
    key that is carried out.** -/
theorem Keyed.step (hm : m.Keyed) {op : Operation}
    (hop : ∀ did fields, op = .update did fields → fields.verkey = some "" →
      (step networks policy m op).1 ≠ .done) :
    (step networks policy m op).2.Keyed := by
  cases op with
  | create o =>
    simp only [Directory.step, create]
    split
    · exact hm
    · split
      · rename_i hcreated
        apply hm.put
        rintro l ⟨⟩
        exact hcreated.2.1
      · exact hm
  | resolve did => exact hm
  | update did fields =>
    apply hm.change
    rintro hdone l l' hl ⟨⟩
    apply revise_verkey_ne hl
    intro hempty
    exact hop did fields rfl hempty hdone
  | deactivate did =>
    apply hm.change
    intro _ l l' _ hnone
    cases hnone
  | registerSchema s => exact hm
  | registerDefinition d => exact hm
  | getSchema id => exact hm
  | getDefinition id => exact hm

/-- Where an update with an empty key was carried out, a document without a key
    is found. -/
theorem resolve_of_blanked {did : String} {fields : UpdateFields}
    (hempty : fields.verkey = some "")
    (hdone : (step networks policy m (.update did fields)).1 = .done) :
    resolve networks did (step networks policy m (.update did fields)).2 =
      .found (Document.build did "") := by
  simp only [step] at hdone ⊢
  obtain ⟨haddresses, l, hlisting⟩ := change_eq_done_iff.1 hdone
  simp only [change, haddresses, hlisting, resolve, if_true, Function.update_self,
    verkey_revise_of_empty l hempty]

theorem Keyed.resolve (hm : m.Keyed) {did : String} {d : Document}
    (h : resolve networks did m = .found d) : d.Keyed := by
  unfold Directory.resolve at h
  split at h
  · split at h
    · rename_i l hlisting
      cases h
      exact Document.keyed_build_iff.2 (hm did l hlisting)
    · cases h
  · cases h

end Directory

/-! ### Operations of a service -/

namespace Service

variable {registry : Registry} {policy : DuplicatePolicy} {m : Directory} {s : Store}

theorem blanks_run_iff {σ : Type} {service : Service σ} {s : σ} {op : Operation} :
    op.Blanks (service.run s op).1 ↔ ∃ did fields, op = .update did fields ∧
      fields.verkey = some "" ∧ (service.run s op).1.verdict = .done := by
  have hreport : ∀ did fields, (service.run s (.update did fields)).1 =
      .updated (service.update did fields s).1 := fun _ _ => rfl
  constructor
  · intro h
    cases op with
    | update did fields =>
      rw [hreport] at h ⊢
      obtain ⟨hempty, hfinished⟩ := h
      exact ⟨did, fields, rfl, hempty, by rw [hfinished]; rfl⟩
    | _ => exact h.elim
  · rintro ⟨did, fields, rfl, hempty, hdone⟩
    rw [hreport] at hdone ⊢
    cases houtcome : (service.update did fields s).1 with
    | finished value => exact ⟨hempty, rfl⟩
    | failed reason =>
      rw [houtcome] at hdone
      cases hdone

theorem resolve_eq_found_iff (h : Directory.Describes policy m s) {did : String} {d : Document} :
    (resolve ⟨registry, Store.transport⟩ did s).1 = .found d ↔
      Directory.resolve registry.networks did m = .found d := by
  have hverdict : (resolve ⟨registry, Store.transport⟩ did s).1.verdict =
      Directory.resolve registry.networks did m :=
    (Directory.run_refines registry h (.resolve did)).1
  rw [← hverdict]
  show _ ↔ (resolve ⟨registry, Store.transport⟩ did s).1.verdict = .found d
  cases (resolve ⟨registry, Store.transport⟩ did s).1 with
  | found document => simp only [Resolved.verdict, Resolved.found.injEq, Verdict.found.injEq]
  | notFound message => simp only [Resolved.verdict, reduceCtorEq]
  | error message => simp only [Resolved.verdict, reduceCtorEq]

theorem keyed_run (h : Directory.Describes policy m s) (hs : s.Keyed) {op : Operation}
    (hkeeps : ¬op.Blanks (run ⟨registry, Store.transport⟩ s op).1) :
    (run ⟨registry, Store.transport⟩ s op).2.Keyed := by
  obtain ⟨hverdict, hdescribes⟩ := Directory.run_refines registry h op
  rw [hdescribes.keyed_iff]
  apply (h.keyed_iff.1 hs).step
  intro did fields hop hempty hdone
  apply hkeeps
  rw [blanks_run_iff, hverdict]
  exact ⟨did, fields, hop, hempty, hdone⟩

theorem exists_found_of_blanks (h : Directory.Describes policy m s) {op : Operation}
    (hblanks : op.Blanks (run ⟨registry, Store.transport⟩ s op).1) :
    ∃ did, (resolve ⟨registry, Store.transport⟩ did
      (run ⟨registry, Store.transport⟩ s op).2).1 = .found (Document.build did "") := by
  obtain ⟨hverdict, hdescribes⟩ := Directory.run_refines registry h op
  rw [blanks_run_iff, hverdict] at hblanks
  obtain ⟨did, fields, rfl, hempty, hdone⟩ := hblanks
  exact ⟨did, (resolve_eq_found_iff hdescribes).2 (Directory.resolve_of_blanked hempty hdone)⟩

end Service

/-! ### Calls of an agent -/

namespace Facade.Agent

theorem blanks_run_iff {σ : Type} {agent : Agent σ} {call : Call} {op : Operation}
    (h : agent.operation? call = some op) (s : σ) :
    call.Blanks (agent.run s call).1 ↔ op.Blanks (agent.service.run s op).1 := by
  rw [run_of_operation? h]
  cases call with
  | operation op' =>
    cases h
    rfl
  | create o =>
    simp only [operation?] at h
    split at h
    · cases h
      rfl
    · cases h
  | update o =>
    simp only [operation?] at h
    split at h
    · cases h
      show Call.Blanks (.update o) (.registration (.ofChanged o.did
        (agent.service.update o.did o.options s).1)) ↔
          Operation.Blanks (.update o.did o.options) (.updated
            (agent.service.update o.did o.options s).1)
      cases (agent.service.update o.did o.options s).1 with
      | finished value => simp [Call.Blanks, Operation.Blanks, DidOperationResult.ofChanged,
          DidOperationResult.finished]
      | failed reason => simp [Call.Blanks, Operation.Blanks, DidOperationResult.ofChanged,
          DidOperationResult.failed]
    · cases h
  | deactivate o =>
    simp only [operation?] at h
    split at h
    · cases h
      rfl
    · cases h
  | resolve did =>
    cases h
    rfl

theorem not_blanks_failed {call : Call} {reason : String} :
    ¬call.Blanks (.registration (.failed reason)) := by
  intro h
  cases call with
  | update o => cases h.2
  | _ => exact h

/-- An agent whose parts work on a ledger in memory. -/
abbrev onStore (registry : Registry) (capabilities : Capabilities) : Agent Store :=
  ⟨⟨registry, Store.transport⟩, capabilities⟩

variable {registry : Registry} {capabilities : Capabilities} {policy : DuplicatePolicy}
  {m : Directory} {s : Store}

theorem exists_describes_run (registry : Registry) (capabilities : Capabilities)
    (h : Directory.Describes policy m s) (call : Call) :
    ∃ m', Directory.Describes policy m' ((onStore registry capabilities).run s call).2 := by
  cases hop : (onStore registry capabilities).operation? call with
  | some op =>
    rw [run_of_operation? hop]
    exact ⟨_, (Directory.run_refines registry h op).2⟩
  | none =>
    obtain ⟨reason, hrun⟩ := run_of_operation?_eq_none hop s
    rw [hrun]
    exact ⟨m, h⟩

/-- **A call keeps the keys of all nyms unless it blanks one.** -/
theorem keyed_run (h : Directory.Describes policy m s) (hs : s.Keyed) {call : Call}
    (hkeeps : ¬call.Blanks ((onStore registry capabilities).run s call).1) :
    ((onStore registry capabilities).run s call).2.Keyed := by
  cases hop : (onStore registry capabilities).operation? call with
  | some op =>
    rw [blanks_run_iff hop] at hkeeps
    rw [run_of_operation? hop]
    exact Service.keyed_run h hs hkeeps
  | none =>
    obtain ⟨reason, hrun⟩ := run_of_operation?_eq_none hop s
    rw [hrun]
    exact hs

/-- **After a call that blanks a key, a document without one is found.** -/
theorem exists_found_of_blanks (h : Directory.Describes policy m s) {call : Call}
    (hblanks : call.Blanks ((onStore registry capabilities).run s call).1) :
    ∃ did, (Service.resolve ⟨registry, Store.transport⟩ did
      ((onStore registry capabilities).run s call).2).1 = .found (Document.build did "") := by
  cases hop : (onStore registry capabilities).operation? call with
  | some op =>
    rw [blanks_run_iff hop] at hblanks
    rw [run_of_operation? hop]
    exact Service.exists_found_of_blanks h hblanks
  | none =>
    obtain ⟨reason, hrun⟩ := run_of_operation?_eq_none hop s
    rw [hrun] at hblanks
    exact absurd hblanks not_blanks_failed

/-! ### Runs -/

theorem exists_describes_runAll (registry : Registry) (capabilities : Capabilities)
    (h : Directory.Describes policy m s) (calls : List Call) :
    ∃ m', Directory.Describes policy m' ((onStore registry capabilities).runAll s calls).2 := by
  induction calls generalizing m s with
  | nil => exact ⟨m, h⟩
  | cons call calls ih =>
    obtain ⟨m', hstep⟩ := exists_describes_run registry capabilities h call
    exact ih hstep

theorem keyed_runAll (h : Directory.Describes policy m s) (hs : s.Keyed) {calls : List Call}
    (hkeeps : ∀ p ∈ calls.zip ((onStore registry capabilities).runAll s calls).1,
      ¬p.1.Blanks p.2)
    {before : List Call} (hbefore : before <+: calls) :
    ((onStore registry capabilities).runAll s before).2.Keyed := by
  -- a call leaves a store that another directory describes
  induction calls generalizing m s before with
  | nil =>
    rw [List.prefix_nil.1 hbefore]
    exact hs
  | cons call calls ih =>
    simp only [runAll, List.zip_cons_cons, List.forall_mem_cons] at hkeeps
    obtain ⟨hcall, hcalls⟩ := hkeeps
    obtain rfl | ⟨rest, rfl, hrest⟩ := List.prefix_cons_iff.1 hbefore
    · exact hs
    · obtain ⟨m', hstep⟩ := exists_describes_run registry capabilities h call
      exact ih hstep (keyed_run h hs hcall) hcalls hrest

theorem not_blanks_of_found (h : Directory.Describes policy m s) {calls : List Call}
    (hfound : ∀ before, before <+: calls → ∀ did d,
      (Service.resolve ⟨registry, Store.transport⟩ did
        ((onStore registry capabilities).runAll s before).2).1 = .found d → d.Keyed) :
    ∀ p ∈ calls.zip ((onStore registry capabilities).runAll s calls).1, ¬p.1.Blanks p.2 := by
  induction calls generalizing m s with
  | nil =>
    intro p hp
    cases hp
  | cons call calls ih =>
    simp only [runAll, List.zip_cons_cons, List.forall_mem_cons]
    constructor
    · intro hblanks
      obtain ⟨did, hresolve⟩ := exists_found_of_blanks h hblanks
      have hkeyed := hfound [call] (List.prefix_append [call] calls) did _ hresolve
      exact Document.keyed_build_iff.1 hkeyed rfl
    · obtain ⟨m', hstep⟩ := exists_describes_run registry capabilities h call
      apply ih hstep
      intro before hbefore
      exact hfound (call :: before) (List.cons_prefix_cons.2 ⟨rfl, hbefore⟩)

/-- **In a run from an empty ledger it comes to the same that every nym has a key
    at all times, that every document which is found at any time has one, and
    that no call blanks a key.** -/
theorem keyed_tfae (registry : Registry) (capabilities : Capabilities) (policy : DuplicatePolicy)
    (calls : List Call) :
    let agent := onStore registry capabilities
    let start := Store.empty policy
    List.TFAE [
      ∀ before, before <+: calls → (agent.runAll start before).2.Keyed,
      ∀ before, before <+: calls → ∀ did d,
        (agent.service.resolve did (agent.runAll start before).2).1 = .found d → d.Keyed,
      ∀ p ∈ calls.zip (agent.runAll start calls).1, ¬p.1.Blanks p.2] := by
  intro agent start
  have hstart := Directory.Describes.empty policy
  tfae_have 1 → 2 := by
    intro hkeyed before hbefore did d hresolve
    obtain ⟨m, hm⟩ := exists_describes_runAll registry capabilities hstart before
    have hlisted := hm.keyed_iff.1 (hkeyed before hbefore)
    exact hlisted.resolve ((Service.resolve_eq_found_iff hm).1 hresolve)
  tfae_have 2 → 3 := not_blanks_of_found hstart
  tfae_have 3 → 1 := by
    intro hkeeps before hbefore
    exact keyed_runAll hstart (hstart.keyed_iff.2 Directory.keyed_empty) hkeeps hbefore
  tfae_finish

/-- Operations that register a DID and put an empty key in the place of its key. -/
def blanking : List Operation :=
  [.create (.new "demo123" "K"), .update "did:testnet:demo123" ⟨some "", none⟩]

/-- After these a nym has no key, and neither has the document that is found. -/
theorem exists_found_not_keyed :
    let service : Service Store := ⟨⟨[.new "testnet" "http://ledger"]⟩, Store.transport⟩
    let s := (service.runAll (Store.empty .reject) blanking).2
    ¬s.Keyed ∧ ∃ d, (service.resolve "did:testnet:demo123" s).1 = .found d ∧ ¬d.Keyed := by
  intro service s
  have hdescribes := (Directory.runAll_describes service.registry
    (Directory.Describes.empty .reject) blanking).2
  have hlisting : (Directory.runAll service.registry.networks .reject Directory.empty blanking).2
      "did:testnet:demo123" = some ⟨"", "TRUST_ANCHOR"⟩ := by decide +kernel
  constructor
  · intro hs
    exact hdescribes.keyed_iff.1 hs _ _ hlisting rfl
  · refine ⟨Document.build "did:testnet:demo123" "",
      (Service.resolve_eq_found_iff hdescribes).2 ?_, ?_⟩
    · decide +kernel
    · intro hkeyed
      exact Document.keyed_build_iff.1 hkeyed rfl

end Facade.Agent
end DidLedger
