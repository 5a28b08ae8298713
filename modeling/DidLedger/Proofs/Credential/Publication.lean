/-
  DidLedger/Proofs/Credential/Publication.lean
  ============================================
  **Where an object is published, and what the ledger is told of it.**

  Schemas and definitions take the same way: one request to the network of the
  issuer, which is the first one that the issuer's DID names or else the first one
  of all (`Registry.IssuesOn`), and a report that hands the object back.  The body of
  the request tells what the object is (`same_of_transaction`): no text of it is left
  out and no two of them are run together, and the key material stands in it as it
  was given.  Only a key for revocations that is `null` cannot be told from one that
  is not there.
-/
import DidLedger.Proofs.Ledger.Requests
import DidLedger.Proofs.Service.Routing

namespace DidLedger

open DidLedger.Ledger DidLedger.Credential

/-! ### The network of an issuer -/

/-- On which network an issuer publishes. -/
inductive Registry.IssuesOn (registry : Registry) (issuerId : String) : Network → Prop
  /-- The issuer is a DID, and the network is the first one that it names. -/
  | named {d : Did} {e : Network} (hparse : Did.parse issuerId = .ok d)
      (hfirst : registry.networks.find? (fun n => n.name == d.network) = some e) :
      IssuesOn registry issuerId e
  /-- The issuer is no DID of a configured network. -/
  | default {e : Network}
      (hnone : ∀ d, Did.parse issuerId = .ok d → ∀ n ∈ registry.networks, n.name ≠ d.network)
      (hfirst : registry.networks.head? = some e) :
      IssuesOn registry issuerId e

namespace Registry

variable {registry : Registry} {issuerId : String}

/-- An issuer is not located if it names no configured network. -/
theorem locate_ne_ok_iff :
    (∀ d n, registry.locate issuerId ≠ .ok (d, n)) ↔
      ∀ d, Did.parse issuerId = .ok d → ∀ n ∈ registry.networks, n.name ≠ d.network := by
  constructor
  · intro h d hparse n hn hname
    have hsome : (registry.networks.find? fun n => n.name == d.network).isSome :=
      List.find?_isSome.2 ⟨n, hn, beq_iff_eq.2 hname⟩
    obtain ⟨e, he⟩ := Option.isSome_iff_exists.1 hsome
    exact h d e (locate_eq_ok_iff.2 ⟨Did.parse_eq_ok_iff.1 hparse, find_eq_ok_iff.2 he⟩)
  · intro h d n hlocate
    obtain ⟨hparse, hfind⟩ := locate_eq_ok_iff.1 hlocate
    exact h d (Did.parse_eq_ok_iff.2 hparse) n (mem_of_find hfind) (name_of_find hfind)

/-- **An issuer publishes on the network that its DID names, or on the first one.** -/
theorem issuesOn_of_issuerNetwork {e : Network} (h : registry.issuerNetwork issuerId = .ok e) :
    registry.IssuesOn issuerId e := by
  unfold issuerNetwork at h
  split at h
  · rename_i d n hlocate
    cases h
    obtain ⟨hparse, hfind⟩ := locate_eq_ok_iff.1 hlocate
    exact .named (Did.parse_eq_ok_iff.2 hparse) (find_eq_ok_iff.1 hfind)
  · rename_i e' hlocate
    refine .default (locate_ne_ok_iff.1 ?_) (defaultNetwork_eq_ok_iff.1 h)
    intro d n hok
    rw [hlocate] at hok
    cases hok

end Registry

/-! ### Bodies -/

theorem Ledger.Transaction.createBody_inj {t t' : Transaction}
    (h : t.createBody = t'.createBody) : t = t' := by
  have htype := congrArg (Json.member "type") h
  have hnetwork := congrArg (Json.member "network") h
  have hcontent := congrArg (Json.member "transaction") h
  rw [member_type_createBody, member_type_createBody, Json.string.injEq] at htype
  rw [member_network_createBody, member_network_createBody, Json.string.injEq] at hnetwork
  rw [member_transaction_createBody, member_transaction_createBody] at hcontent
  cases t
  cases t'
  rw [mk.injEq]
  exact ⟨Kind.name_injective htype, hnetwork, hcontent⟩

/-- What an issuer publishes. -/
inductive Publication where
  | schema (schema : Schema)
  | definition (definition : Definition)

namespace Publication

def issuerId : Publication → String
  | .schema s => s.issuerId
  | .definition d => d.issuerId

def operation : Publication → Operation
  | .schema s => .registerSchema s
  | .definition d => .registerDefinition d

def transaction (network : String) : Publication → Transaction
  | .schema s => s.transaction network
  | .definition d => d.transaction network

@[simp] theorem network_transaction (p : Publication) (network : String) :
    (p.transaction network).network = network := by
  cases p with
  | schema s => rfl
  | definition d => rfl

/-- What is reported when the ledger has accepted the object. -/
def accepted : Publication → Report
  | .schema s => .schemaRegistered (.finished ⟨s.ledgerId, s⟩)
  | .definition d => .definitionRegistered (.finished ⟨d.ledgerId, d⟩)

/-- The objects are of one kind and agree in all that they hold; a key for revocations
    may be missing in one and `null` in the other. -/
def Same : Publication → Publication → Prop
  | .schema s, .schema s' =>
    s.issuerId = s'.issuerId ∧ s.name = s'.name ∧ s.version = s'.version ∧
      s.attrNames = s'.attrNames
  | .definition d, .definition d' =>
    d.issuerId = d'.issuerId ∧ d.schemaId = d'.schemaId ∧ d.type = d'.type ∧ d.tag = d'.tag ∧
      d.value.primary = d'.value.primary ∧
      d.value.revocation.getD .null = d'.value.revocation.getD .null
  | _, _ => False

theorem same_of_schema {s s' : Schema} {network network' : String}
    (h : s.transaction network = s'.transaction network') : (schema s).Same (schema s') := by
  simp only [Schema.transaction, Transaction.mk.injEq, Json.object.injEq, List.cons.injEq,
    Prod.mk.injEq, Json.string.injEq, Json.array.injEq, true_and, and_true] at h
  obtain ⟨-, hissuer, hattributes, hname, hversion⟩ := h
  have hinjective : ∀ a b : String, Json.string a = .string b → a = b := fun a b => Json.string.inj
  exact ⟨hissuer, hname, hversion, (List.map_inj_right hinjective).1 hattributes⟩

theorem same_of_definition {d d' : Definition} {network network' : String}
    (h : d.transaction network = d'.transaction network') :
    (definition d).Same (definition d') := by
  simp only [Definition.transaction, Transaction.mk.injEq, Json.object.injEq, List.cons.injEq,
    Prod.mk.injEq, Json.string.injEq, true_and, and_true] at h
  obtain ⟨-, hissuer, ⟨hprimary, hrevocation⟩, hschema, htype, htag⟩ := h
  exact ⟨hissuer, hschema, htype, htag, hprimary, hrevocation⟩

/-- **The transaction tells the object**, whatever network it is for. -/
theorem same_of_transaction {p p' : Publication} {network network' : String}
    (h : p.transaction network = p'.transaction network') : p.Same p' := by
  have hkind := congrArg Transaction.kind h
  cases p with
  | schema s =>
    cases p' with
    | schema s' => exact same_of_schema h
    | definition d' => exact Kind.noConfusion hkind
  | definition d =>
    cases p' with
    | schema s' => exact Kind.noConfusion hkind
    | definition d' => exact same_of_definition h

/-- **A publication that asks anything** asks the network of its issuer for its
    transaction, and hands the object back when that is answered. -/
theorem course_operation {registry : Registry} {p : Publication} {errand : Errand}
    {conclude : Answer → Report} (h : registry.course p.operation = .asking errand conclude) :
    ∃ e, registry.IssuesOn p.issuerId e ∧ errand = .create e (p.transaction e.name) ∧
      ∀ value, conclude (.ok value) = p.accepted := by
  cases p with
  | schema s =>
    obtain ⟨plan, hplan, rfl⟩ := Course.plan_of_ofWrite h
    obtain ⟨-, e, hissuer, rfl⟩ := Registry.planSchema_eq_ok_iff.1 hplan
    rw [operation, Registry.course, hplan] at h
    cases h
    exact ⟨e, Registry.issuesOn_of_issuerNetwork hissuer, rfl, fun value => rfl⟩
  | definition d =>
    obtain ⟨plan, hplan, rfl⟩ := Course.plan_of_ofWrite h
    obtain ⟨-, e, hissuer, rfl⟩ := Registry.planDefinition_eq_ok_iff.1 hplan
    rw [operation, Registry.course, hplan] at h
    cases h
    exact ⟨e, Registry.issuesOn_of_issuerNetwork hissuer, rfl, fun value => rfl⟩

end Publication

namespace Course

theorem asking_of_errands {course : Course} {errand : Errand} (h : course.errands = [errand]) :
    ∃ conclude, course = .asking errand conclude := by
  cases course with
  | ended report => cases h
  | asking errand' conclude =>
    cases h
    exact ⟨conclude, rfl⟩

theorem asking_of_errands_ne_nil {course : Course} (h : course.errands ≠ []) :
    ∃ errand conclude, course = .asking errand conclude := by
  cases course with
  | ended report => exact absurd rfl h
  | asking errand conclude => exact ⟨errand, conclude, rfl⟩

end Course

namespace Service

variable {σ : Type}

/-- **A publication that sends anything is delivered whole.**  The one request goes to
    the network of the issuer and names that network; no other object is published with
    the same body, by whatever service; and when the ledger accepts it, the object is
    reported as it was submitted. -/
theorem publication_delivered {registry : Registry} {transport : Transport σ} {p : Publication}
    {s : σ} {log : List Errand}
    (hsent : (run ⟨registry, transport.logging⟩ (s, log) p.operation).2.2 ≠ log) :
    ∃ e body, registry.IssuesOn p.issuerId e ∧ body.member "network" = .string e.name ∧
      let request : Request := ⟨.post, "/CreateTransaction", some body⟩
      let r := run ⟨registry, transport.logging⟩ (s, log) p.operation
      r.2 = ((transport e request s).2, log ++ [⟨e, request⟩]) ∧
        (∀ value, (transport e request s).1 = .ok value → r.1 = p.accepted) ∧
        ∀ (τ : Type) (registry' : Registry) (transport' : Transport τ) (p' : Publication) (t : τ)
          (log' : List Errand) (e' : Network),
          (run ⟨registry', transport'.logging⟩ (t, log') p'.operation).2.2 =
            log' ++ [⟨e', request⟩] → p.Same p' := by
  rw [run_eq_follow, follow_logging] at hsent
  have hne : (registry.course p.operation).errands ≠ [] := by
    intro hnil
    rw [hnil, List.append_nil] at hsent
    exact hsent rfl
  obtain ⟨errand, conclude, hcourse⟩ := Course.asking_of_errands_ne_nil hne
  obtain ⟨e, hissues, rfl, hconclude⟩ := Publication.course_operation hcourse
  have hnetwork : (p.transaction e.name).createBody.member "network" = .string e.name := by
    rw [member_network_createBody, Publication.network_transaction]
  refine ⟨e, (p.transaction e.name).createBody, hissues, hnetwork, ?_⟩
  intro request r
  have hrun : r = (conclude (transport e request s).1,
      (transport e request s).2, log ++ [⟨e, request⟩]) := by
    simp only [r, run_eq_follow, hcourse]
    rfl
  rw [hrun]
  refine ⟨rfl, ?_, ?_⟩
  · intro value hvalue
    rw [hvalue]
    exact hconclude value
  · intro τ registry' transport' p' t log' e' hsent'
    rw [run_eq_follow, follow_logging, List.append_cancel_left_eq] at hsent'
    obtain ⟨conclude', hcourse'⟩ := Course.asking_of_errands hsent'
    -- the other service may use another network, so only the bodies are compared
    obtain ⟨e'', -, herrand, -⟩ := Publication.course_operation hcourse'
    have hbody : (p.transaction e.name).createBody = (p'.transaction e''.name).createBody :=
      Option.some.inj (congrArg (fun errand => errand.request.body) herrand)
    exact Publication.same_of_transaction (Transaction.createBody_inj hbody)

/-- Two ledgers, of which the second is named by the issuer of `revocableKeys`. -/
def twoLedgers : Registry := ⟨[.new "main" "http://a", .new "testnet" "http://b"]⟩

/-- A definition of an issuer whose identifier holds one more segment. -/
def revocableKeys : Definition :=
  ⟨"did:testnet:pool1:i", "did:testnet:pool1:i:2:degree:1.0", "CL", "t",
    ⟨.object [("n", .string "7")], some .null⟩⟩

/-- The definition is sent to the ledger of its issuer and reported with its keys. -/
theorem publication_delivered_revocable :
    (run ⟨twoLedgers, (Transport.scripted []).logging⟩ (0, [])
        (Publication.definition revocableKeys).operation).2.2 ≠ [] ∧
      ∃ e body, twoLedgers.IssuesOn "did:testnet:pool1:i" e ∧
        run ⟨twoLedgers, (Transport.scripted []).logging⟩ (0, [])
            (Publication.definition revocableKeys).operation =
          (.definitionRegistered (.finished ⟨revocableKeys.ledgerId, revocableKeys⟩), 1,
            [⟨e, ⟨.post, "/CreateTransaction", some body⟩⟩]) := by
  have hsent : (run ⟨twoLedgers, (Transport.scripted []).logging⟩ (0, [])
      (Publication.definition revocableKeys).operation).2.2 ≠ [] := List.cons_ne_nil _ _
  obtain ⟨e, body, hissues, -, hrun, haccepted, -⟩ := publication_delivered hsent
  exact ⟨hsent, e, body, hissues, Prod.ext (haccepted .null rfl) hrun⟩

end Service
end DidLedger
