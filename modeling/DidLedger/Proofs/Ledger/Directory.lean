/-
  DidLedger/Proofs/Ledger/Directory.lean
  ======================================
  **A service on a ledger in memory is a directory of DIDs.**

  A directory maps the texts of DIDs to a key and a role.  Its operations are
  said in terms of the map, the policy and the configured networks: no request,
  no path and no body occurs in them.  `run_refines` is the step: an operation of
  the service leads from a store that a directory describes to one that the
  directory after the same operation describes, and it comes to the same verdict.
  `runAll_refines` carries this along any run.

  The wording of failures does not belong to a verdict, and neither do schemas
  and credential definitions, which leave the directory as it is.
-/
import DidLedger.Proofs.Ledger.Requests
import DidLedger.Proofs.Service.Answer
import DidLedger.Proofs.Service.Course
import Mathlib.Logic.Function.Basic

namespace DidLedger

open DidLedger.Ledger DidLedger.Credential

/-- What a directory says of a DID. -/
structure Listing where
  verkey : String
  role : String
deriving DecidableEq, Repr

/-- The listings of DIDs, under their texts. -/
abbrev Directory := String → Option Listing

/-- What an operation on a directory comes to. -/
inductive Verdict where
  | created (created : CreatedDid)
  | found (document : Document)
  | notFound
  | error
  | done
  | failed
  | aside
deriving DecidableEq, Repr

namespace Outcome

variable {α : Type}

def verdict (ofValue : α → Verdict) : Outcome α → Verdict
  | .finished a => ofValue a
  | .failed _ => .failed

end Outcome

def Resolved.verdict : Resolved → Verdict
  | .found document => .found document
  | .notFound _ => .notFound
  | .error _ => .error

/-- A report without the wording of failures; schemas and definitions stand aside. -/
def Report.verdict : Report → Verdict
  | .created outcome => outcome.verdict Verdict.created
  | .resolved r => r.verdict
  | .updated outcome => outcome.verdict fun _ => .done
  | .deactivated outcome => outcome.verdict fun _ => .done
  | _ => .aside

/-! ### Operations on directories -/

namespace Directory

def empty : Directory := fun _ => none

/-- The network that is named, or the first one. -/
def networkOf (networks : List Network) : Option String → Option Network
  | some name => networks.find? fun n => n.name == name
  | none => networks.head?

/-- Whether a text is a DID of a configured network. -/
def addresses (networks : List Network) (did : String) : Bool :=
  match Did.parse? did with
  | some d => networks.any fun n => n.name == d.network
  | none => false

/-- A DID is listed if there is a network for it whose name can stand in a DID,
    and if the policy lets a new listing take the place of an old one. -/
def create (networks : List Network) (policy : DuplicatePolicy) (o : CreateOptions)
    (m : Directory) : Verdict × Directory :=
  match networkOf networks o.network with
  | none => (.failed, m)
  | some n =>
    let did := "did:" ++ n.name ++ ":" ++ o.methodSpecificId
    if o.methodSpecificId ≠ "" ∧ o.verkey ≠ "" ∧
        (Did.parse? did).map Did.network = some n.name ∧
        (policy = .accept ∨ m did = none) then
      (.created ⟨did, o.verkey, Document.build did o.verkey⟩,
        Function.update m did (some ⟨o.verkey, o.role.getD "TRUST_ANCHOR"⟩))
    else (.failed, m)

def resolve (networks : List Network) (did : String) (m : Directory) : Verdict :=
  if addresses networks did then
    match m did with
    | some l => .found (Document.build did l.verkey)
    | none => .notFound
  else .error

/-- A listing with the fields that are given; the role falls back to the one of
    a new listing. -/
def revise (l : Listing) (fields : UpdateFields) : Listing where
  verkey :=
    match fields.verkey with
    | some verkey => if verkey = "unchanged" then l.verkey else verkey
    | none => l.verkey
  role := fields.role.getD "TRUST_ANCHOR"

/-- Changes the listing of a DID to what `f` makes of it. -/
def change (networks : List Network) (did : String) (f : Listing → Option Listing)
    (m : Directory) : Verdict × Directory :=
  match addresses networks did, m did with
  | true, some l => (.done, Function.update m did (f l))
  | _, _ => (.failed, m)

/-- An operation on a directory. -/
def step (networks : List Network) (policy : DuplicatePolicy) (m : Directory) :
    Operation → Verdict × Directory
  | .create o => create networks policy o m
  | .resolve did => (resolve networks did m, m)
  | .update did fields => change networks did (fun l => some (revise l fields)) m
  | .deactivate did => change networks did (fun _ => none) m
  | _ => (.aside, m)

def runAll (networks : List Network) (policy : DuplicatePolicy) (m : Directory) :
    List Operation → List Verdict × Directory
  | [] => ([], m)
  | op :: ops =>
    let (verdict, m) := step networks policy m op
    let (verdicts, m) := runAll networks policy m ops
    (verdict :: verdicts, m)

end Directory

/-! ### Directories of stores -/

def Listing.nym (did : String) (l : Listing) : Nym :=
  ⟨did, l.verkey, .string l.role⟩

/-- A store that takes requests and holds the nyms that are listed, and no others. -/
structure Directory.Describes (policy : DuplicatePolicy) (m : Directory) (s : Store) : Prop where
  forced_eq : s.forced = none
  policy_eq : s.policy = policy
  nym?_eq : ∀ did, s.nym? did = (m did).map (Listing.nym did)

namespace Directory

variable {registry : Registry} {policy : DuplicatePolicy} {m : Directory} {s : Store}

namespace Describes

theorem empty (policy : DuplicatePolicy) : Describes policy Directory.empty (Store.empty policy) :=
  ⟨rfl, rfl, fun _ => rfl⟩

theorem isSome_nym? (h : Describes policy m s) (did : String) :
    (s.nym? did).isSome = (m did).isSome := by
  rw [h.nym?_eq, Option.isSome_map]

theorem putNym (h : Describes policy m s) (did : String) (l : Listing) :
    Describes policy (Function.update m did (some l)) (s.putNym (l.nym did)) := by
  refine ⟨h.forced_eq, h.policy_eq, fun other => ?_⟩
  have hput : (s.putNym (l.nym did)).nym? other =
      if other = did then some (l.nym did) else s.nym? other :=
    Store.nym?_putNym s (l.nym did) other
  by_cases heq : other = did
  · subst heq
    rw [hput, if_pos rfl, Function.update_self]
    rfl
  · rw [hput, if_neg heq, h.nym?_eq, Function.update_of_ne heq]

theorem removeNym (h : Describes policy m s) (did : String) :
    Describes policy (Function.update m did none) (s.removeNym did) := by
  refine ⟨h.forced_eq, h.policy_eq, fun other => ?_⟩
  rw [Store.nym?_removeNym]
  by_cases heq : other = did
  · subst heq
    rw [if_pos rfl, Function.update_self]
    rfl
  · rw [if_neg heq, h.nym?_eq, Function.update_of_ne heq]

theorem addBody (h : Describes policy m s) (kind : String) (body : Json) :
    Describes policy m (s.addBody kind body) :=
  ⟨h.forced_eq, h.policy_eq, h.nym?_eq⟩

end Describes

/-! ### Networks and DIDs -/

theorem networkOf_eq_some_iff {choice : Option String} {network : Network} :
    networkOf registry.networks choice = some network ↔ registry.select choice = .ok network := by
  cases choice with
  | none => exact Registry.defaultNetwork_eq_ok_iff.symm
  | some name => exact Registry.find_eq_ok_iff.symm

theorem map_network_parse?_iff {network : Network} {id : String} :
    (Did.parse? (network.didOf id)).map Did.network = some network.name ↔
      network.holds id = true := by
  unfold Network.holds
  cases Did.parse? (network.didOf id) with
  | none => simp
  | some d => simp

theorem addresses_iff {did : String} :
    addresses registry.networks did = true ↔
      ∃ parsed network, registry.locate did = .ok (parsed, network) := by
  simp only [Registry.locate_eq_ok_iff, Registry.find_eq_ok_iff]
  unfold addresses
  cases Did.parse? did with
  | none => simp
  | some d =>
    simp only [Option.some.injEq, exists_and_left, exists_eq_left', List.any_eq_true]
    rw [← Option.isSome_iff_exists, List.find?_isSome]

/-- An operation on a DID has a plan when the DID is one of a configured network. -/
theorem exists_plan_iff {α : Type} {did : String} {plan : Except Error α} {f : Did → Network → α}
    (hplan : ∀ p, plan = .ok p ↔
      ∃ parsed network, registry.locate did = .ok (parsed, network) ∧ p = f parsed network) :
    (∃ p, plan = .ok p) ↔ addresses registry.networks did = true := by
  rw [addresses_iff]
  constructor
  · rintro ⟨p, hp⟩
    obtain ⟨parsed, network, hlocate, -⟩ := (hplan p).1 hp
    exact ⟨parsed, network, hlocate⟩
  · rintro ⟨parsed, network, hlocate⟩
    exact ⟨_, (hplan _).2 ⟨parsed, network, hlocate, rfl⟩⟩

/-! ### Single operations -/

theorem accepts_iff {did : String} :
    (policy = .accept ∨ m did = none) ↔ ¬(policy = .reject ∧ (m did).isSome = true) := by
  cases policy with
  | accept => simp
  | reject => simp

theorem create_of_plan {o : CreateOptions} {plan : Plan CreatedDid}
    (hplan : registry.planCreate o = .ok plan) :
    create registry.networks policy o m =
      if policy = .reject ∧ (m plan.result.did).isSome then (.failed, m)
      else (.created plan.result,
        Function.update m plan.result.did (some ⟨o.verkey, o.role.getD defaultRole⟩)) := by
  obtain ⟨⟨hid, hverkey⟩, network, hselect, hholds, rfl⟩ := Registry.planCreate_eq_ok_iff.1 hplan
  have hparse := map_network_parse?_iff.2 hholds
  have hdid : (Registry.creationPlan o network).result.did =
      "did:" ++ network.name ++ ":" ++ o.methodSpecificId := rfl
  rw [hdid]
  unfold create
  simp only [networkOf_eq_some_iff.2 hselect]
  -- the plan brings all conditions but the one on duplicates
  by_cases hdup : policy = .reject ∧
      (m ("did:" ++ network.name ++ ":" ++ o.methodSpecificId)).isSome = true
  · rw [if_pos hdup, if_neg fun h => accepts_iff.1 h.2.2.2 hdup]
  · rw [if_neg hdup, if_pos ⟨hid, hverkey, hparse, accepts_iff.2 hdup⟩]
    rfl

theorem create_of_no_plan {o : CreateOptions} {e : Error}
    (hplan : registry.planCreate o = .error e) :
    create registry.networks policy o m = (.failed, m) := by
  unfold create
  cases hnetwork : networkOf registry.networks o.network with
  | none => rfl
  | some network =>
    apply if_neg
    -- without the one on duplicates the conditions are those of a plan
    rintro ⟨hid, hverkey, hparse, -⟩
    have hholds := map_network_parse?_iff.1 hparse
    have hok := Registry.planCreate_eq_ok_iff.2
      ⟨⟨hid, hverkey⟩, network, networkOf_eq_some_iff.1 hnetwork, hholds, rfl⟩
    rw [hplan] at hok
    cases hok

theorem run_create (h : Describes policy m s) (o : CreateOptions) :
    let r := Service.run ⟨registry, Store.transport⟩ s (.create o)
    r.1.verdict = (create registry.networks policy o m).1 ∧
      Describes policy (create registry.networks policy o m).2 r.2 := by
  rw [Service.run_eq_follow]
  simp only [Registry.course]
  cases hplan : registry.planCreate o with
  | error e =>
    rw [create_of_no_plan hplan]
    exact ⟨rfl, h⟩
  | ok plan =>
    rw [create_of_plan hplan]
    obtain ⟨-, network, -, -, rfl⟩ := Registry.planCreate_eq_ok_iff.1 hplan
    have hhandle := Store.handle_createNym h.forced_eq network network.name (Registry.creation o)
    rw [h.policy_eq, h.isSome_nym?] at hhandle
    have hdid : (Did.mk network.name (Registry.creation o).dest).display =
        (Registry.creationPlan o network).result.did := rfl
    have herrand : Errand.create network (.nym network.name (Registry.creation o)) =
        (Registry.creationPlan o network).errand := rfl
    rw [hdid, herrand] at hhandle
    split at hhandle
    · rename_i hdup
      rw [Course.ofWrite, Course.follow_asking (Store.transport_of_error hhandle), if_pos hdup]
      exact ⟨rfl, h⟩
    · rename_i hnew
      rw [Course.ofWrite, Course.follow_asking (Store.transport_of_ok hhandle), if_neg hnew]
      exact ⟨rfl, h.putNym _ ⟨o.verkey, o.role.getD defaultRole⟩⟩

theorem documentOf_nym (did : String) (l : Listing) :
    Service.documentOf did (.object [("result", (l.nym did).toJson)]) =
      .found (Document.build did l.verkey) := by
  have hkey : answerKey? (.object [("result", (l.nym did).toJson)]) = some l.verkey := by
    simp [answerKey?, nymKey?, Json.member, Nym.toJson, Listing.nym, Json.isTextOrNull, Json.text?,
      List.lookup_cons]
  have hv : (Json.object [("result", (l.nym did).toJson)]).WellFormed := by
    refine ⟨List.pairwise_singleton _ _, ⟨?_, trivial, trivial, trivial, trivial⟩, trivial⟩
    exact List.pairwise_map.1 (show ["did", "role", "verkey"].Pairwise (· < ·) by decide)
  have hfor := isFor_documentOf hv did
  rw [hkey] at hfor
  exact hfor

theorem run_resolve (h : Describes policy m s) (did : String) :
    let r := Service.run ⟨registry, Store.transport⟩ s (.resolve did)
    r.1.verdict = resolve registry.networks did m ∧ Describes policy m r.2 := by
  rw [Service.run_eq_follow]
  simp only [Registry.course]
  cases hplan : registry.planResolve did with
  | error e =>
    have haddresses : addresses registry.networks did ≠ true := by
      intro htrue
      obtain ⟨p, hp⟩ := (exists_plan_iff fun p => Registry.planResolve_eq_ok_iff).2 htrue
      rw [hplan] at hp
      cases hp
    rw [resolve, if_neg haddresses]
    exact ⟨rfl, h⟩
  | ok errand =>
    obtain ⟨parsed, network, hlocate, rfl⟩ := Registry.planResolve_eq_ok_iff.1 hplan
    have hhandle : s.handle (Errand.read network did).request = s.read did Kind.nym.name :=
      Store.handle_readPath h.forced_eq did .nym none
    rw [resolve, if_pos (addresses_iff.2 ⟨parsed, network, hlocate⟩)]
    simp only [Store.read, if_true, h.nym?_eq] at hhandle
    cases hlisting : m did with
    | none =>
      simp only [hlisting, Option.map_none] at hhandle
      rw [Course.ofRead, Course.follow_asking (Store.transport_of_error hhandle)]
      exact ⟨rfl, h⟩
    | some l =>
      simp only [hlisting, Option.map_some] at hhandle
      rw [Course.ofRead, Course.follow_asking (Store.transport_of_ok hhandle)]
      refine ⟨?_, h⟩
      simp only [Resolved.ofAnswer, documentOf_nym]
      rfl

/-- A write about a DID that is listed, or fails where it is not. -/
theorem follow_change (h : Describes policy m s) {did : String} {f : Listing → Option Listing}
    {plan : Except Error (Plan Unit)} {report : Outcome Unit → Report}
    (hreport : ∀ outcome, (report outcome).verdict = outcome.verdict fun _ => .done)
    (hplan : (∃ p, plan = .ok p) ↔ addresses registry.networks did = true)
    (hhandle : ∀ p, plan = .ok p →
      match m did with
      | some l => ∃ answer s', s.handle p.errand.request = (.ok answer, s') ∧
          Describes policy (Function.update m did (f l)) s'
      | none => ∃ rejection, s.handle p.errand.request = (.error rejection, s)) :
    let r := (Course.ofWrite report plan).follow Store.transport s
    r.1.verdict = (change registry.networks did f m).1 ∧
      Describes policy (change registry.networks did f m).2 r.2 := by
  cases plan with
  | error e =>
    have haddresses : addresses registry.networks did = false := by
      rw [← Bool.not_eq_true, ← hplan]
      rintro ⟨p, hp⟩
      cases hp
    rw [change, haddresses]
    exact ⟨hreport _, h⟩
  | ok p =>
    have haddresses := hplan.1 ⟨p, rfl⟩
    have hanswer := hhandle p rfl
    rw [change, haddresses]
    cases hlisting : m did with
    | none =>
      rw [hlisting] at hanswer
      obtain ⟨rejection, hanswer⟩ := hanswer
      rw [Course.ofWrite, Course.follow_asking (Store.transport_of_error hanswer)]
      exact ⟨hreport _, h⟩
    | some l =>
      rw [hlisting] at hanswer
      obtain ⟨answer, s', hanswer, hdescribes⟩ := hanswer
      rw [Course.ofWrite, Course.follow_asking (Store.transport_of_ok hanswer)]
      exact ⟨hreport _, hdescribes⟩

theorem nym_revise (did : String) (l : Listing) (parsed : Did) (fields : UpdateFields) :
    (l.nym did).revised (Registry.change parsed fields) = (revise l fields).nym did := by
  cases fields with
  | mk verkey role =>
    cases verkey with
    | none => rfl
    | some verkey => rfl

theorem run_update (h : Describes policy m s) (did : String) (fields : UpdateFields) :
    let r := Service.run ⟨registry, Store.transport⟩ s (.update did fields)
    r.1.verdict = (change registry.networks did (fun l => some (revise l fields)) m).1 ∧
      Describes policy
        (change registry.networks did (fun l => some (revise l fields)) m).2 r.2 := by
  rw [Service.run_eq_follow]
  apply follow_change h (fun outcome => rfl)
    (exists_plan_iff fun p => Registry.planUpdate_eq_ok_iff)
  intro p hp
  obtain ⟨parsed, network, hlocate, rfl⟩ := Registry.planUpdate_eq_ok_iff.1 hp
  have hhandle := Store.handle_updateNym h.forced_eq network network.name did
    (Registry.change parsed fields)
  rw [h.nym?_eq] at hhandle
  cases hlisting : m did with
  | none =>
    simp only [hlisting, Option.map_none] at hhandle
    exact ⟨_, hhandle⟩
  | some l =>
    simp only [hlisting, Option.map_some, nym_revise] at hhandle
    exact ⟨_, _, hhandle, h.putNym did (revise l fields)⟩

theorem run_deactivate (h : Describes policy m s) (did : String) :
    let r := Service.run ⟨registry, Store.transport⟩ s (.deactivate did)
    r.1.verdict = (change registry.networks did (fun _ => none) m).1 ∧
      Describes policy (change registry.networks did (fun _ => none) m).2 r.2 := by
  rw [Service.run_eq_follow]
  apply follow_change h (fun outcome => rfl)
    (exists_plan_iff fun p => Registry.planDeactivate_eq_ok_iff)
  intro p hp
  obtain ⟨parsed, network, hlocate, rfl⟩ := Registry.planDeactivate_eq_ok_iff.1 hp
  have hhandle : s.handle (Errand.delete network did).request = s.delete did :=
    Store.handle_deletePath h.forced_eq did none
  simp only [Store.delete, h.nym?_eq] at hhandle
  cases hlisting : m did with
  | none =>
    simp only [hlisting, Option.map_none] at hhandle
    exact ⟨_, hhandle⟩
  | some l =>
    simp only [hlisting, Option.map_some] at hhandle
    exact ⟨_, _, hhandle, h.removeNym did⟩

/-- A body that is filed leaves the directory as it is. -/
theorem follow_createBody (h : Describes policy m s) {α : Type} {plan : Except Error (Plan α)}
    {report : Outcome α → Report} (hreport : ∀ outcome, (report outcome).verdict = .aside)
    (hplan : ∀ p, plan = .ok p → ∃ network t, t.kind ≠ .nym ∧ p.errand = .create network t) :
    let r := (Course.ofWrite report plan).follow Store.transport s
    r.1.verdict = .aside ∧ Describes policy m r.2 := by
  cases plan with
  | error e => exact ⟨hreport _, h⟩
  | ok p =>
    obtain ⟨network, t, hkind, herrand⟩ := hplan p rfl
    have hhandle := Store.handle_createBody h.forced_eq network t hkind
    rw [← herrand] at hhandle
    rw [Course.ofWrite, Course.follow_asking (Store.transport_of_ok hhandle)]
    exact ⟨hreport _, h.addBody _ _⟩

/-! ### Runs -/

/-- **One operation of the service is one operation on the directory.** -/
theorem run_refines (registry : Registry) (h : Describes policy m s) (op : Operation) :
    let r := Service.run ⟨registry, Store.transport⟩ s op
    r.1.verdict = (step registry.networks policy m op).1 ∧
      Describes policy (step registry.networks policy m op).2 r.2 := by
  cases op with
  | create o => exact run_create h o
  | resolve did => exact run_resolve h did
  | update did fields => exact run_update h did fields
  | deactivate did => exact run_deactivate h did
  | registerSchema schema =>
    rw [Service.run_eq_follow]
    refine follow_createBody h (fun outcome => rfl) fun p hp => ?_
    obtain ⟨-, network, -, rfl⟩ := Registry.planSchema_eq_ok_iff.1 hp
    exact ⟨network, schema.transaction network.name, Kind.noConfusion, rfl⟩
  | registerDefinition d =>
    rw [Service.run_eq_follow]
    refine follow_createBody h (fun outcome => rfl) fun p hp => ?_
    obtain ⟨-, network, -, rfl⟩ := Registry.planDefinition_eq_ok_iff.1 hp
    exact ⟨network, d.transaction network.name, Kind.noConfusion, rfl⟩
  | getSchema schemaId => exact ⟨rfl, h⟩
  | getDefinition definitionId => exact ⟨rfl, h⟩

theorem runAll_describes (registry : Registry) (h : Describes policy m s)
    (ops : List Operation) :
    let r := Service.runAll ⟨registry, Store.transport⟩ s ops
    r.1.map Report.verdict = (runAll registry.networks policy m ops).1 ∧
      Describes policy (runAll registry.networks policy m ops).2 r.2 := by
  induction ops generalizing m s with
  | nil => exact ⟨rfl, h⟩
  | cons op ops ih =>
    obtain ⟨hverdict, hstep⟩ := run_refines registry h op
    obtain ⟨hverdicts, hend⟩ := ih hstep
    simp only [Service.runAll, runAll, List.map_cons, hverdict, hverdicts]
    exact ⟨trivial, hend⟩

/-- **A run of a service over an empty ledger in memory is the run of the same
    operations over an empty directory**: each operation comes to the same
    verdict, and in the end the ledger holds the nyms that are listed. -/
theorem runAll_refines (registry : Registry) (policy : DuplicatePolicy) (ops : List Operation) :
    let r := Service.runAll ⟨registry, Store.transport.recording⟩ (Store.empty policy, []) ops
    let d := runAll registry.networks policy Directory.empty ops
    r.1.map Report.verdict = d.1 ∧ ∀ did, r.2.1.nym? did = (d.2 did).map (Listing.nym did) := by
  obtain ⟨hreports, hstore⟩ :=
    Service.runAll_recording registry Store.transport (Store.empty policy) [] ops
  obtain ⟨hverdicts, hdescribes⟩ :=
    runAll_describes registry (Describes.empty policy) ops
  simp only [hreports, hstore]
  exact ⟨hverdicts, hdescribes.nym?_eq⟩

end Directory
end DidLedger
