/-
  DidLedger/Proofs/Ledger/Objects.lean
  ====================================
  **No object is lost, doubled or taken for another.**

  All bodies other than nyms lie in one map, under keys that depend on how many
  are there already.  Since every key is a new one, the objects of a type are the
  bodies of that type that were accepted, each as often as it was
  (`objects_handleAll`), whatever other traffic there was.

  For a service this means that the schemas on its ledger are those whose
  registration finished, one for one, and so are the credential definitions
  (`objects_runAll`).
-/
import DidLedger.Proofs.Ledger.Steps
import DidLedger.Proofs.Service.Course
import Mathlib.Data.List.Forall2

namespace DidLedger

open DidLedger.Ledger DidLedger.Credential

namespace Ledger

/-- The body of an accepted request to file one of a type. -/
def acceptedBody? (kind : String) : Request × Except Rejection Json → Option Json
  | (r, .ok _) =>
    if r.method = .post ∧ r.path = createPath then r.body.filter (Store.isOfType kind) else none
  | (_, .error _) => none

theorem acceptedBody?_of_posts {kind : String} {r : Request} {body answer : Json}
    (hpost : r.Posts createPath body) :
    acceptedBody? kind (r, .ok answer) = Option.filter (Store.isOfType kind) (some body) := by
  rw [acceptedBody?, if_pos ⟨hpost.method_eq, hpost.path_eq⟩, hpost.body_eq]

theorem acceptedBody?_of_other {kind : String} {r : Request} {answer : Json}
    (h : ¬(r.method = .post ∧ r.path = createPath)) :
    acceptedBody? kind (r, .ok answer) = none := by
  rw [acceptedBody?, if_neg h]

namespace Store

variable {s : Store} {r : Request}

theorem isOfType_iff {kind : String} {body : Json} :
    isOfType kind body = true ↔ body.member "type" = .string kind := by
  rw [isOfType, beq_iff_eq, Json.text?_eq_some_iff]

theorem isOfType_of_type {kind other : String} {body : Json}
    (htype : body.member "type" = .string kind) : isOfType other body = decide (kind = other) := by
  rw [Bool.eq_iff_iff, isOfType_iff, htype, Json.string.injEq, decide_eq_true_iff]

/-! ### All traffic -/

/-- **An accepted request to file a body adds it to its type, and no other request
    changes the objects of any type.** -/
theorem objects_handle (hs : s.Filed) {kind : String} (hkind : kind ≠ Kind.nym.name)
    (r : Request) :
    (s.handle r).2.objects kind =
      s.objects kind ++ (acceptedBody? kind (r, (s.handle r).1)).toList := by
  have hstep := handle_step s r
  generalize s.handle r = result at hstep
  cases hstep with
  | rejected rejection => exact (List.append_nil _).symm
  | created hpost hnym hverkey hnew =>
    -- The body of a nym is of no other type, so it does not count for this one.
    have hother : ¬isOfType kind _ = true := fun h => hkind <| by
      rw [isOfType_iff, hnym.type_eq, Json.string.injEq] at h
      exact h.symm
    rw [acceptedBody?_of_posts hpost, Option.filter_some, if_neg hother]
    exact (List.append_nil _).symm
  | @filed body other hpost hother htype =>
    rw [acceptedBody?_of_posts hpost, hs.objects_addBody, List.filter_singleton,
      Option.filter_some]
    cases isOfType kind body with
    | true => rfl
    | false => rfl
  | revised hpost hid hstored =>
    have hpath : ¬(r.method = .post ∧ r.path = createPath) := fun h => by
      rw [hpost.path_eq] at h
      exact absurd h.2 (by decide)
    rw [acceptedBody?_of_other hpath]
    exact (List.append_nil _).symm
  | shown hmethod hstored =>
    rw [acceptedBody?_of_other fun h => by rw [hmethod] at h; cases h.1]
    exact (List.append_nil _).symm
  | deleted hmethod hpath hdecode =>
    rw [acceptedBody?_of_other fun h => by rw [hmethod] at h; cases h.1]
    exact (List.append_nil _).symm

theorem objects_handleAll (hs : s.Filed) {kind : String} (hkind : kind ≠ Kind.nym.name)
    (requests : List Request) :
    (s.handleAll requests).2.objects kind = s.objects kind ++
      (requests.zip (s.handleAll requests).1).filterMap (acceptedBody? kind) := by
  induction requests generalizing s with
  | nil => exact (List.append_nil _).symm
  | cons r requests ih =>
    -- The keys stay new after the first request, so the rest counts from there.
    have hrest := ih (hs.handle r)
    rw [objects_handle hs hkind, List.append_assoc] at hrest
    simp only [handleAll, List.zip_cons_cons, hrest]
    cases hbody : acceptedBody? kind (r, (s.handle r).1) with
    | none => rw [List.filterMap_cons_none hbody]; rfl
    | some body => rw [List.filterMap_cons_some hbody]; rfl

/-- Nyms are not among the bodies. -/
theorem objects_nym_handle (h : s.objects Kind.nym.name = []) (r : Request) :
    (s.handle r).2.objects Kind.nym.name = [] := by
  have hstep := handle_step s r
  generalize s.handle r = result at hstep
  cases hstep with
  | @filed body kind hpost hkind htype =>
    rw [objects, List.filter_eq_nil_iff] at h ⊢
    intro b hb
    simp only [addBody, List.map_append, List.map_singleton, List.mem_append,
      List.mem_singleton] at hb
    rcases hb with hold | rfl
    · apply h
      rcases List.mem_map.1 hold with ⟨entry, hentry, rfl⟩
      exact List.mem_map_of_mem (List.mem_of_mem_filter hentry)
    · rw [isOfType_of_type htype, decide_eq_true_iff]
      exact hkind
  | _ => exact h

/-! ### Requests of a service -/

def FilesNothing (r : Request) : Prop :=
  ∀ body kind, r.Posts createPath body → body.member "type" = .string kind → kind = Kind.nym.name

theorem bodies_handle_of_filesNothing (h : FilesNothing r) (s : Store) :
    (s.handle r).2.bodies = s.bodies := by
  have hstep := handle_step s r
  generalize s.handle r = result at hstep
  cases hstep with
  | filed hpost hkind htype => exact absurd (h _ _ hpost htype) hkind
  | _ => rfl

theorem filesNothing_createNym (network : Network) (name : String) (o : NymOperation) :
    FilesNothing (Errand.create network (.nym name o)).request := by
  intro body kind hpost htype
  have hbody := Option.some.inj hpost.body_eq
  rw [← hbody, member_type_createBody, Json.string.injEq] at htype
  exact htype.symm

theorem filesNothing_of_path (h : r.path ≠ createPath) : FilesNothing r := by
  intro body kind hpost
  exact absurd hpost.path_eq h

theorem filesNothing_of_method (h : r.method ≠ .post) : FilesNothing r := by
  intro body kind hpost
  exact absurd hpost.method_eq h

end Store
end Ledger

/-- The body under which a registration is published. -/
inductive Registry.Publishes (registry : Registry) : Operation → Kind → Json → Prop
  | schema {schema : Schema} {network : Network}
      (h : registry.issuerNetwork schema.issuerId = .ok network) :
      registry.Publishes (.registerSchema schema) .schema
        (schema.transaction network.name).createBody
  | definition {d : Definition} {network : Network}
      (h : registry.issuerNetwork d.issuerId = .ok network) :
      registry.Publishes (.registerDefinition d) .credentialDefinition
        (d.transaction network.name).createBody

/-- A call registered an object of a kind. -/
def registers (kind : Kind) : Operation × Report → Bool
  | (.registerSchema _, .schemaRegistered outcome) => kind == .schema && outcome.isFinished
  | (.registerDefinition _, .definitionRegistered outcome) =>
    kind == .credentialDefinition && outcome.isFinished
  | _ => false

theorem member_type_of_publishes {registry : Registry} {op : Operation} {kind : Kind} {body : Json}
    (h : registry.Publishes op kind body) : body.member "type" = .string kind.name := by
  cases h with
  | schema h => exact member_type_createBody _
  | definition h => exact member_type_createBody _

namespace Service

variable {registry : Registry} {s : Store}

theorem run_of_ended {op : Operation} {report : Report} (h : registry.course op = .ended report)
    (s : Store) : run ⟨registry, Store.transport⟩ s op = (report, s) := by
  rw [run_eq_follow]
  simp only [h]
  rfl

theorem run_of_asking {op : Operation} {errand : Errand} {conclude : Answer → Report}
    (h : registry.course op = .asking errand conclude) (s : Store) :
    run ⟨registry, Store.transport⟩ s op =
      (conclude (Store.transport errand.network errand.request s).1,
        (s.handle errand.request).2) := by
  rw [run_eq_follow]
  simp only [h, Course.follow, Store.transport_snd]

variable (registry)

theorem run_keeps {P : Store → Prop} (hstep : ∀ s r, P s → P (s.handle r).2) (hs : P s)
    (op : Operation) : P (run ⟨registry, Store.transport⟩ s op).2 := by
  cases hcourse : registry.course op with
  | ended report =>
    rw [run_of_ended hcourse]
    exact hs
  | asking errand conclude =>
    rw [run_of_asking hcourse]
    exact hstep s errand.request hs

theorem filed_run (hs : s.Filed) (op : Operation) :
    (run ⟨registry, Store.transport⟩ s op).2.Filed :=
  run_keeps registry (fun _ r hs => hs.handle r) hs op

theorem bodies_follow {course : Course}
    (h : ∀ errand conclude, course = .asking errand conclude → Store.FilesNothing errand.request) :
    (course.follow Store.transport s).2.bodies = s.bodies := by
  cases course with
  | ended report => rfl
  | asking errand conclude =>
    have hbodies := Store.bodies_handle_of_filesNothing (h errand conclude rfl) s
    rw [← Store.transport_snd errand.network] at hbodies
    exact hbodies

/-- A registration that is planned is accepted, and files its body. -/
theorem follow_publication (hforced : s.forced = none) {α : Type} (report : Outcome α → Report)
    (network : Network) {t : Transaction} (hkind : t.kind ≠ .nym) (result : α) :
    (Course.ofWrite report (.ok ⟨.create network t, result⟩)).follow Store.transport s =
      (report (.finished result), s.addBody t.kind.name t.createBody) := by
  have hhandle := Store.handle_createBody hforced network t hkind
  rw [Course.ofWrite, Course.follow_asking (Store.transport_of_ok hhandle)]
  rfl

/-! ### Operations of a service -/

/-- An operation files nothing, or it is a registration that finishes and files
    the body that publishes it. -/
theorem run_files (hforced : s.forced = none) (op : Operation) :
    let r := run ⟨registry, Store.transport⟩ s op
    (r.2.bodies = s.bodies ∧ ∀ kind, registers kind (op, r.1) = false) ∨
      ∃ kind body, registry.Publishes op kind body ∧ r.2 = s.addBody kind.name body ∧
        ∀ other, registers other (op, r.1) = (other == kind) := by
  intro r
  have hrun : r = (registry.course op).follow Store.transport s := run_eq_follow _ s op
  rw [hrun]
  cases op with
  | create o =>
    refine .inl ⟨bodies_follow ?_, fun kind => rfl⟩
    intro errand conclude hcourse
    cases Registry.asks_of_course hcourse with
    | create _ => exact Store.filesNothing_createNym _ _ _
  | resolve did =>
    refine .inl ⟨bodies_follow ?_, fun kind => rfl⟩
    intro errand conclude hcourse
    cases Registry.asks_of_course hcourse with
    | resolve _ => exact Store.filesNothing_of_method Method.noConfusion
  | update did fields =>
    refine .inl ⟨bodies_follow ?_, fun kind => rfl⟩
    intro errand conclude hcourse
    cases Registry.asks_of_course hcourse with
    | update _ _ => exact Store.filesNothing_of_path (by decide : updatePath ≠ createPath)
  | deactivate did =>
    refine .inl ⟨bodies_follow ?_, fun kind => rfl⟩
    intro errand conclude hcourse
    cases Registry.asks_of_course hcourse with
    | deactivate _ => exact Store.filesNothing_of_method Method.noConfusion
  | registerSchema schema =>
    simp only [Registry.course]
    cases hplan : registry.planSchema schema with
    | error e => exact .inl ⟨rfl, fun kind => Bool.and_false _⟩
    | ok plan =>
      rcases Registry.planSchema_eq_ok_iff.1 hplan with ⟨-, network, hnetwork, rfl⟩
      rw [follow_publication hforced _ network Kind.noConfusion]
      exact .inr ⟨.schema, _, .schema hnetwork, rfl, fun other => Bool.and_true _⟩
  | registerDefinition d =>
    simp only [Registry.course]
    cases hplan : registry.planDefinition d with
    | error e => exact .inl ⟨rfl, fun kind => Bool.and_false _⟩
    | ok plan =>
      rcases Registry.planDefinition_eq_ok_iff.1 hplan with ⟨-, network, hnetwork, rfl⟩
      rw [follow_publication hforced _ network Kind.noConfusion]
      exact .inr ⟨.credentialDefinition, _, .definition hnetwork, rfl, fun other => Bool.and_true _⟩
  | getSchema id => exact .inl ⟨rfl, fun kind => rfl⟩
  | getDefinition id => exact .inl ⟨rfl, fun kind => rfl⟩

theorem objects_run (hforced : s.forced = none) (hs : s.Filed) (kind : Kind) (op : Operation) :
    let r := run ⟨registry, Store.transport⟩ s op
    ∃ bodies, r.2.objects kind.name = s.objects kind.name ++ bodies ∧
      List.Forall₂ (fun call body => registry.Publishes call.1 kind body)
        ([(op, r.1)].filter (registers kind)) bodies := by
  intro r
  rcases run_files registry hforced op with
    ⟨hbodies, hnot⟩ | ⟨other, body, hpublishes, hafter, hregisters⟩
  · refine ⟨[], ?_, ?_⟩
    · rw [List.append_nil, Store.objects, Store.objects, hbodies]
    · rw [List.filter_singleton, hnot kind]
      exact .nil
  · -- The body is of one kind and counts for this kind only, like its registration.
    have htype := member_type_of_publishes hpublishes
    refine ⟨[body].filter (Store.isOfType kind.name), ?_, ?_⟩
    · rw [hafter, hs.objects_addBody]
    · rw [List.filter_singleton, List.filter_singleton, hregisters kind,
        Store.isOfType_of_type htype]
      by_cases hkind : kind = other
      · subst hkind
        simp only [beq_self_eq_true, decide_true]
        exact .cons hpublishes .nil
      · have hname : ¬other.name = kind.name := fun h => hkind (Kind.name_injective h).symm
        simp only [beq_eq_false_iff_ne.2 hkind, hname, decide_false]
        exact .nil

/-- **The objects of a kind that a run adds are published by the registrations of
    that kind that finished, one for one.** -/
theorem objects_runAll (hforced : s.forced = none) (hs : s.Filed) (kind : Kind)
    (ops : List Operation) :
    let r := runAll ⟨registry, Store.transport⟩ s ops
    ∃ bodies, r.2.objects kind.name = s.objects kind.name ++ bodies ∧
      List.Forall₂ (fun call body => registry.Publishes call.1 kind body)
        ((ops.zip r.1).filter (registers kind)) bodies := by
  intro r
  induction ops generalizing s with
  | nil => exact ⟨[], (List.append_nil _).symm, .nil⟩
  | cons op ops ih =>
    obtain ⟨first, hfirst, hone⟩ := objects_run registry hforced hs kind op
    have hforced' := run_keeps registry (fun s r h => (Store.forced_handle s r).trans h)
      hforced op
    obtain ⟨rest, hrest, hmany⟩ := ih hforced' (filed_run registry hs op)
    refine ⟨first ++ rest, ?_, ?_⟩
    · rw [hfirst, List.append_assoc] at hrest
      exact hrest
    · have hcalls := List.rel_append hone hmany
      simp only [← List.filter_append] at hcalls
      exact hcalls

/-- **The objects of a ledger that was empty at first are the bodies that were
    accepted**, type by type and each as often as it was, and there are no nyms
    among them.  Over a service those of a kind are the ones that the finished
    registrations of that kind publish, one for one. -/
theorem objects_perm_accepted (policy : DuplicatePolicy) :
    (∀ requests : List Request,
      let r := (Store.empty policy).handleAll requests
      (∀ kind, kind ≠ "nym" →
        (r.2.objects kind).Perm ((requests.zip r.1).filterMap (acceptedBody? kind))) ∧
      r.2.objects "nym" = []) ∧
    ∀ (registry : Registry) (ops : List Operation) (kind : Kind),
      let r := runAll ⟨registry, Store.transport.recording⟩ (Store.empty policy, []) ops
      ∃ bodies, bodies.Perm (r.2.1.objects kind.name) ∧
        List.Forall₂ (fun call body => registry.Publishes call.1 kind body)
          ((ops.zip r.1).filter (registers kind)) bodies := by
  have hempty : (Store.empty policy).Filed := .of_bodies_eq_nil rfl
  constructor
  · intro requests r
    constructor
    · intro kind hkind
      have hobjects := Store.objects_handleAll hempty hkind requests
      exact .of_eq hobjects
    · apply Store.handleAll_keeps (P := fun s => s.objects Kind.nym.name = []) _ rfl requests
      intro s r hnone
      exact Store.objects_nym_handle hnone r
  · intro registry ops kind r
    obtain ⟨hreports, hstore⟩ :=
      runAll_recording registry Store.transport (Store.empty policy) [] ops
    obtain ⟨bodies, hbodies, hpublished⟩ :=
      objects_runAll registry (s := Store.empty policy) rfl hempty kind ops
    refine ⟨bodies, ?_, ?_⟩
    · rw [hstore, hbodies]
      exact .refl _
    · rw [hreports]
      exact hpublished

end Service
end DidLedger
