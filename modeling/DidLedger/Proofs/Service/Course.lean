/-
  DidLedger/Proofs/Service/Course.lean
  ====================================
  **Every operation makes at most one request, and its report depends on nothing
  but the answer.**

  The operations of a service differ in their planners and in what they conclude
  from an answer, but they all take one of two courses: they report at once, or
  they make one request and report from its answer.  Which course it is, which
  request, and what is concluded is fixed by the input and the networks
  (`Registry.course`); the transport only answers (`run_eq_follow`).  The requests
  are of six kinds (`Registry.Asks`), and what is to be shown of each is shown by
  cases on these.

  So whatever is to be shown of operations over a transport is shown of a single
  request to it.  `runAll_related` is the form in which two transports are
  compared: if they answer the requests that the operations make alike, from
  related states to related states, whole runs give the same reports.
-/
import DidLedger.Proofs.Service.Plan
import DidLedger.Service.Basic

namespace DidLedger

open DidLedger.Ledger DidLedger.Credential

/-! ### Courses -/

/-- What an operation does, the transport apart. -/
inductive Course where
  /-- It reports at once. -/
  | ended (report : Report)
  /-- It makes one request and reports from the answer. -/
  | asking (errand : Errand) (conclude : Answer → Report)

/-- What a write comes to by the answer to its request. -/
def Outcome.ofAnswer {α : Type} (result : α) : Answer → Outcome α
  | .ok _ => .finished result
  | .error e => .failed e.message

/-- What a resolution comes to by the answer to its request. -/
def Resolved.ofAnswer (did : String) : Answer → Resolved
  | .ok answer => Service.documentOf did answer
  | .error e => .notFound s!"DID not found: {did}: {e.message}"

namespace Course

/-- The course of a planned write. -/
def ofWrite {α : Type} (report : Outcome α → Report) : Except Error (Plan α) → Course
  | .ok plan => .asking plan.errand fun answer => report (.ofAnswer plan.result answer)
  | .error e => .ended (report (.failed e.message))

/-- The course of a planned resolution. -/
def ofRead (did : String) : Except Error Errand → Course
  | .ok errand => .asking errand fun answer => .resolved (.ofAnswer did answer)
  | .error e => .ended (.resolved (.error e.message))

/-- The requests that a course makes. -/
def errands : Course → List Errand
  | .ended _ => []
  | .asking errand _ => [errand]

/-- Takes a course over a transport. -/
def follow {σ : Type} (transport : Transport σ) (s : σ) : Course → Report × σ
  | .ended report => (report, s)
  | .asking errand conclude =>
    let (answer, s) := transport errand.network errand.request s
    (conclude answer, s)

theorem follow_asking {σ : Type} {transport : Transport σ} {s s' : σ} {errand : Errand}
    {conclude : Answer → Report} {answer : Answer}
    (h : transport errand.network errand.request s = (answer, s')) :
    (Course.asking errand conclude).follow transport s = (conclude answer, s') := by
  simp only [follow, h]

theorem plan_of_ofWrite {α : Type} {report : Outcome α → Report} {plan : Except Error (Plan α)}
    {errand : Errand} {conclude : Answer → Report}
    (h : ofWrite report plan = .asking errand conclude) :
    ∃ p, plan = .ok p ∧ p.errand = errand := by
  cases plan with
  | error e => cases h
  | ok p =>
    cases h
    exact ⟨p, rfl, rfl⟩

theorem plan_of_ofRead {did : String} {plan : Except Error Errand} {errand : Errand}
    {conclude : Answer → Report} (h : ofRead did plan = .asking errand conclude) :
    plan = .ok errand := by
  cases plan with
  | error e => cases h
  | ok p =>
    cases h
    rfl

/-- A write whose request fails comes to that failure. -/
theorem conclude_error_of_ofWrite {α : Type} {report : Outcome α → Report}
    {plan : Except Error (Plan α)} {errand : Errand} {conclude : Answer → Report}
    (h : ofWrite report plan = .asking errand conclude) (e : Error) :
    conclude (.error e) = report (.failed e.message) := by
  cases plan with
  | error e => cases h
  | ok p =>
    cases h
    rfl

theorem conclude_error_of_ofRead {did : String} {plan : Except Error Errand} {errand : Errand}
    {conclude : Answer → Report} (h : ofRead did plan = .asking errand conclude) (e : Error) :
    conclude (.error e) = .resolved (.notFound s!"DID not found: {did}: {e.message}") := by
  cases plan with
  | error e => cases h
  | ok p =>
    cases h
    rfl

end Course

/-- The course of an operation. -/
def Registry.course (registry : Registry) : Operation → Course
  | .create o => .ofWrite .created (registry.planCreate o)
  | .resolve did => .ofRead did (registry.planResolve did)
  | .update did fields => .ofWrite .updated (registry.planUpdate did fields)
  | .deactivate did => .ofWrite .deactivated (registry.planDeactivate did)
  | .registerSchema s => .ofWrite .schemaRegistered (registry.planSchema s)
  | .registerDefinition d => .ofWrite .definitionRegistered (registry.planDefinition d)
  | .getSchema id =>
    .ended (.schemaRead (.failed (Error.notImplemented s!"reading schema {id}").message))
  | .getDefinition id =>
    .ended (.definitionRead
      (.failed (Error.notImplemented s!"reading credential definition {id}").message))

/-- Which request an operation makes of which network. -/
inductive Registry.Asks (registry : Registry) : Operation → Errand → Prop
  | create {o : CreateOptions} {network : Network}
      (hselect : registry.select o.network = .ok network) :
      Asks registry (.create o) (.create network (.nym network.name (creation o)))
  | resolve {did : String} {parsed : Did} {network : Network}
      (hlocate : registry.locate did = .ok (parsed, network)) :
      Asks registry (.resolve did) (.read network did)
  | update {did : String} {parsed : Did} {network : Network} (fields : UpdateFields)
      (hlocate : registry.locate did = .ok (parsed, network)) :
      Asks registry (.update did fields)
        (.update network (.nym network.name (change parsed fields)) did)
  | deactivate {did : String} {parsed : Did} {network : Network}
      (hlocate : registry.locate did = .ok (parsed, network)) :
      Asks registry (.deactivate did) (.delete network did)
  | registerSchema {s : Schema} {network : Network}
      (hissuer : registry.issuerNetwork s.issuerId = .ok network) :
      Asks registry (.registerSchema s) (.create network (s.transaction network.name))
  | registerDefinition {d : Definition} {network : Network}
      (hissuer : registry.issuerNetwork d.issuerId = .ok network) :
      Asks registry (.registerDefinition d) (.create network (d.transaction network.name))

/-- **An operation makes one of six requests.** -/
theorem Registry.asks_of_course {registry : Registry} {op : Operation} {errand : Errand}
    {conclude : Answer → Report} (h : registry.course op = .asking errand conclude) :
    registry.Asks op errand := by
  cases op with
  | create o =>
    obtain ⟨plan, hplan, rfl⟩ := Course.plan_of_ofWrite h
    obtain ⟨-, network, hselect, -, rfl⟩ := planCreate_eq_ok_iff.1 hplan
    exact .create hselect
  | resolve did =>
    obtain ⟨parsed, network, hlocate, rfl⟩ := planResolve_eq_ok_iff.1 (Course.plan_of_ofRead h)
    exact .resolve hlocate
  | update did fields =>
    obtain ⟨plan, hplan, rfl⟩ := Course.plan_of_ofWrite h
    obtain ⟨parsed, network, hlocate, rfl⟩ := planUpdate_eq_ok_iff.1 hplan
    exact .update fields hlocate
  | deactivate did =>
    obtain ⟨plan, hplan, rfl⟩ := Course.plan_of_ofWrite h
    obtain ⟨parsed, network, hlocate, rfl⟩ := planDeactivate_eq_ok_iff.1 hplan
    exact .deactivate hlocate
  | registerSchema schema =>
    obtain ⟨plan, hplan, rfl⟩ := Course.plan_of_ofWrite h
    obtain ⟨-, network, hissuer, rfl⟩ := planSchema_eq_ok_iff.1 hplan
    exact .registerSchema hissuer
  | registerDefinition d =>
    obtain ⟨plan, hplan, rfl⟩ := Course.plan_of_ofWrite h
    obtain ⟨-, network, hissuer, rfl⟩ := planDefinition_eq_ok_iff.1 hplan
    exact .registerDefinition hissuer
  | getSchema schemaId => cases h
  | getDefinition definitionId => cases h

theorem Registry.Asks.mem_networks {registry : Registry} {op : Operation} {errand : Errand}
    (h : registry.Asks op errand) : errand.network ∈ registry.networks := by
  cases h with
  | create hselect => exact mem_of_select hselect
  | resolve hlocate => exact mem_of_find (locate_eq_ok_iff.1 hlocate).2
  | update _ hlocate => exact mem_of_find (locate_eq_ok_iff.1 hlocate).2
  | deactivate hlocate => exact mem_of_find (locate_eq_ok_iff.1 hlocate).2
  | registerSchema hissuer => exact mem_of_issuerNetwork hissuer
  | registerDefinition hissuer => exact mem_of_issuerNetwork hissuer

namespace Service

variable {σ τ : Type}

/-- A planned write comes to what the answer to its request says. -/
theorem write_ok {α : Type} (service : Service σ) (plan : Plan α) (s : σ) :
    service.write (.ok plan) s =
      (service.transport plan.errand.network plan.errand.request s).map
        (.ofAnswer plan.result) id := by
  unfold write
  cases hanswer : service.transport plan.errand.network plan.errand.request s with
  | mk answer s' =>
    simp only [hanswer]
    cases answer with
    | error e => rfl
    | ok value => rfl

theorem write_eq_follow {α : Type} (service : Service σ) (report : Outcome α → Report)
    (plan : Except Error (Plan α)) (s : σ) :
    (service.write plan s).map report id =
      (Course.ofWrite report plan).follow service.transport s := by
  cases plan with
  | error e => rfl
  | ok plan =>
    rw [write_ok]
    rfl

theorem resolve_eq_follow (service : Service σ) (did : String) (s : σ) :
    (service.resolve did s).map .resolved id =
      (Course.ofRead did (service.registry.planResolve did)).follow service.transport s := by
  unfold resolve
  cases service.registry.planResolve did with
  | error e => rfl
  | ok errand =>
    unfold Course.ofRead Course.follow
    cases hanswer : service.transport errand.network errand.request s with
    | mk answer s' =>
      simp only [hanswer]
      cases answer with
      | error e => rfl
      | ok value => rfl

/-- **An operation follows its course.** -/
theorem run_eq_follow (service : Service σ) (s : σ) (op : Operation) :
    service.run s op = (service.registry.course op).follow service.transport s := by
  cases op with
  | create o => exact write_eq_follow service .created _ s
  | resolve did => exact resolve_eq_follow service did s
  | update did fields => exact write_eq_follow service .updated _ s
  | deactivate did => exact write_eq_follow service .deactivated _ s
  | registerSchema schema => exact write_eq_follow service .schemaRegistered _ s
  | registerDefinition d => exact write_eq_follow service .definitionRegistered _ s
  | getSchema schemaId => rfl
  | getDefinition definitionId => rfl

/-- A write that is finished was planned, and its request was answered. -/
theorem answer_of_finished {α : Type} {service : Service σ} {plan : Except Error (Plan α)} {a : α}
    {s s' : σ} (h : service.write plan s = (.finished a, s')) :
    ∃ p answer, plan = .ok p ∧ a = p.result ∧
      service.transport p.errand.network p.errand.request s = (.ok answer, s') := by
  cases plan with
  | error e => cases h
  | ok p =>
    rw [write_ok] at h
    cases hanswer : service.transport p.errand.network p.errand.request s with
    | mk answer s'' =>
      rw [hanswer] at h
      cases answer with
      | error e => cases h
      | ok value =>
        cases h
        exact ⟨p, value, rfl, rfl, hanswer⟩

/-- A write that is finished gives what was planned. -/
theorem plan_of_finished {α : Type} {service : Service σ} {plan : Except Error (Plan α)} {a : α}
    {s s' : σ} (h : service.write plan s = (.finished a, s')) :
    ∃ p, plan = .ok p ∧ a = p.result := by
  obtain ⟨p, -, hplan, hresult, -⟩ := answer_of_finished h
  exact ⟨p, hplan, hresult⟩

/-! ### Runs over two transports -/

variable {registry : Registry} {t : Transport σ} {u : Transport τ} {R : σ → τ → Prop}

/-- Whether two transports answer the request of an operation alike, if it makes
    one, from related states to related states. -/
def Alike (registry : Registry) (t : Transport σ) (u : Transport τ) (R : σ → τ → Prop)
    (op : Operation) : Prop :=
  ∀ errand conclude, registry.course op = .asking errand conclude → ∀ s s', R s s' →
    (t errand.network errand.request s).1 = (u errand.network errand.request s').1 ∧
      R (t errand.network errand.request s).2 (u errand.network errand.request s').2

theorem run_related {op : Operation} (h : Alike registry t u R op) {s : σ} {s' : τ} (hs : R s s') :
    (run ⟨registry, t⟩ s op).1 = (run ⟨registry, u⟩ s' op).1 ∧
      R (run ⟨registry, t⟩ s op).2 (run ⟨registry, u⟩ s' op).2 := by
  rw [run_eq_follow, run_eq_follow]
  cases hcourse : registry.course op with
  | ended report => exact ⟨rfl, hs⟩
  | asking errand conclude =>
    obtain ⟨hanswer, hrelated⟩ := h errand conclude hcourse s s' hs
    exact ⟨congrArg conclude hanswer, hrelated⟩

/-- **Transports that answer the requests of a run alike give the same reports.** -/
theorem runAll_related {ops : List Operation} (h : ∀ op ∈ ops, Alike registry t u R op)
    {s : σ} {s' : τ} (hs : R s s') :
    (runAll ⟨registry, t⟩ s ops).1 = (runAll ⟨registry, u⟩ s' ops).1 ∧
      R (runAll ⟨registry, t⟩ s ops).2 (runAll ⟨registry, u⟩ s' ops).2 := by
  induction ops generalizing s s' with
  | nil => exact ⟨rfl, hs⟩
  | cons op ops ih =>
    obtain ⟨hreport, hstep⟩ := run_related (h op List.mem_cons_self) hs
    obtain ⟨hreports, hend⟩ := ih (fun p hp => h p (List.mem_cons_of_mem _ hp)) hstep
    simp only [runAll, hreport, hreports]
    exact ⟨trivial, hend⟩

/-- A transport that keeps a list of its requests answers as before. -/
theorem alike_recording (registry : Registry) (t : Transport σ) (op : Operation) :
    Alike registry t.recording t (fun s s' => s.1 = s') op := by
  rintro errand conclude - ⟨s, calls⟩ s' rfl
  exact ⟨rfl, rfl⟩

theorem run_recording (registry : Registry) (t : Transport σ) (s : σ) (calls : List Call)
    (op : Operation) :
    (run ⟨registry, t.recording⟩ (s, calls) op).1 = (run ⟨registry, t⟩ s op).1 ∧
      (run ⟨registry, t.recording⟩ (s, calls) op).2.1 = (run ⟨registry, t⟩ s op).2 :=
  run_related (alike_recording registry t op) rfl

theorem runAll_recording (registry : Registry) (t : Transport σ) (s : σ) (calls : List Call)
    (ops : List Operation) :
    (runAll ⟨registry, t.recording⟩ (s, calls) ops).1 = (runAll ⟨registry, t⟩ s ops).1 ∧
      (runAll ⟨registry, t.recording⟩ (s, calls) ops).2.1 = (runAll ⟨registry, t⟩ s ops).2 :=
  runAll_related (fun op _ => alike_recording registry t op) rfl

end Service
end DidLedger
