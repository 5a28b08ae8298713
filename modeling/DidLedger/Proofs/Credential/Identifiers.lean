/-
  DidLedger/Proofs/Credential/Identifiers.lean
  ============================================
  **How far the identifier of a published object tells the object.**

  The identifiers of schemas and definitions are put together from texts with colons
  between them, and the texts may hold colons of their own.  What is lost is which of
  the colons stood between two parts.  Once it is known how many colons each part
  holds, the parts can be cut off again from behind (`joined_inj`); so two objects
  have one identifier and yet different parts only if colons of the one part stand in
  another part of the other object, and then they do.
-/
import DidLedger.Proofs.Service.Course

namespace DidLedger.Credential

open DidLedger

/-! ### Parts joined by colons -/

/-- How many colons a text holds. -/
def colons (s : String) : Nat := s.toList.count ':'

theorem colons_joined (a b : String) : colons (a ++ ":" ++ b) = colons a + colons b + 1 := by
  simp only [colons, String.toList_append, List.count_append]
  have hcolon : ":".toList.count ':' = 1 := rfl
  omega

/-- Two lists are cut at the same separator if as many separators stand before it. -/
theorem append_cons_inj_of_count {α : Type} [DecidableEq α] {c : α} {a a' b b' : List α}
    (hcount : a.count c = a'.count c) (h : a ++ c :: b = a' ++ c :: b') : a = a' ∧ b = b' := by
  induction a generalizing a' with
  | nil =>
    cases a' with
    | nil => exact ⟨rfl, (List.cons.inj h).2⟩
    | cons x a' =>
      obtain ⟨rfl, -⟩ := List.cons.inj h
      rw [List.count_nil, List.count_cons_self] at hcount
      omega
  | cons x a ih =>
    cases a' with
    | nil =>
      obtain ⟨rfl, -⟩ := List.cons.inj h
      rw [List.count_nil, List.count_cons_self] at hcount
      omega
    | cons y a' =>
      obtain ⟨rfl, htail⟩ := List.cons.inj h
      rw [List.count_cons, List.count_cons, Nat.add_right_cancel_iff] at hcount
      obtain ⟨rfl, rfl⟩ := ih hcount htail
      exact ⟨rfl, rfl⟩

/-- **A joined text is taken apart by the number of colons behind the joint.** -/
theorem joined_inj {a b a' b' : String} (hcolons : colons b = colons b')
    (h : a ++ ":" ++ b = a' ++ ":" ++ b') : a = a' ∧ b = b' := by
  have hfront : a.toList.count ':' = a'.toList.count ':' := by
    have hall := congrArg colons h
    rw [colons_joined, colons_joined, hcolons] at hall
    exact Nat.add_right_cancel (Nat.add_right_cancel hall)
  have hlist : a.toList ++ ':' :: b.toList = a'.toList ++ ':' :: b'.toList := by
    have hchars := congrArg String.toList h
    simpa [String.toList_append, List.append_assoc] using hchars
  obtain ⟨ha, hb⟩ := append_cons_inj_of_count hfront hlist
  exact ⟨String.toList_inj.1 ha, String.toList_inj.1 hb⟩

/-! ### The two identifiers -/

theorem Schema.ledgerId_joined (s : Schema) :
    s.ledgerId = s.issuerId ++ ":" ++ "2" ++ ":" ++ s.name ++ ":" ++ s.version := by
  have hnumber : ":2:" = ":" ++ "2" ++ ":" := rfl
  simp only [ledgerId, hnumber, String.append_assoc]

theorem Definition.ledgerId_joined (d : Definition) :
    d.ledgerId = d.issuerId ++ ":" ++ "3" ++ ":" ++ d.type ++ ":" ++ d.schemaId ++ ":" ++ d.tag := by
  have hnumber : ":3:" = ":" ++ "3" ++ ":" := rfl
  simp only [ledgerId, hnumber, String.append_assoc]

theorem Schema.ledgerId_eq_iff {s s' : Schema} :
    s.ledgerId = s'.ledgerId ∧ colons s.name = colons s'.name ∧
        colons s.version = colons s'.version ↔
      s.issuerId = s'.issuerId ∧ s.name = s'.name ∧ s.version = s'.version := by
  rw [ledgerId_joined, ledgerId_joined]
  constructor
  · rintro ⟨hid, hname, hversion⟩
    obtain ⟨hid, hversion⟩ := joined_inj hversion hid
    obtain ⟨hid, hname⟩ := joined_inj hname hid
    obtain ⟨hissuer, -⟩ := joined_inj rfl hid
    exact ⟨hissuer, hname, hversion⟩
  · rintro ⟨hissuer, hname, hversion⟩
    rw [hissuer, hname, hversion]
    exact ⟨rfl, rfl, rfl⟩

theorem Definition.ledgerId_eq_iff {d d' : Definition} :
    d.ledgerId = d'.ledgerId ∧ colons d.type = colons d'.type ∧
        colons d.schemaId = colons d'.schemaId ∧ colons d.tag = colons d'.tag ↔
      d.issuerId = d'.issuerId ∧ d.type = d'.type ∧ d.schemaId = d'.schemaId ∧ d.tag = d'.tag := by
  rw [ledgerId_joined, ledgerId_joined]
  constructor
  · rintro ⟨hid, htype, hschema, htag⟩
    obtain ⟨hid, htag⟩ := joined_inj htag hid
    obtain ⟨hid, hschema⟩ := joined_inj hschema hid
    obtain ⟨hid, htype⟩ := joined_inj htype hid
    obtain ⟨hissuer, -⟩ := joined_inj rfl hid
    exact ⟨hissuer, htype, hschema, htag⟩
  · rintro ⟨hissuer, htype, hschema, htag⟩
    rw [hissuer, htype, hschema, htag]
    exact ⟨rfl, rfl, rfl, rfl⟩

/-! ### What registrations report -/

variable {σ τ : Type} {service : Service σ} {service' : Service τ}

theorem registered_of_schema {s : Schema} {r : RegisteredSchema} {state next : σ}
    (h : service.registerSchema s state = (.finished r, next)) : r = s.registered := by
  obtain ⟨plan, hplan, hr⟩ := Service.plan_of_finished h
  obtain ⟨-, network, -, rfl⟩ := Registry.planSchema_eq_ok_iff.1 hplan
  exact hr

theorem registered_of_definition {d : Definition} {r : RegisteredDefinition} {state next : σ}
    (h : service.registerDefinition d state = (.finished r, next)) : r = d.registered := by
  obtain ⟨plan, hplan, hr⟩ := Service.plan_of_finished h
  obtain ⟨-, network, -, rfl⟩ := Registry.planDefinition_eq_ok_iff.1 hplan
  exact hr

/-- **Reported identifiers tell their objects apart up to the place of the colons.**  Of
    two registrations that finished, those with one identifier are of the same parts
    exactly if the parts hold the same numbers of colons. -/
theorem reportedIds_eq_iff (service : Service σ) (service' : Service τ) (state next : σ)
    (state' next' : τ) :
    (∀ s s' r r', service.registerSchema s state = (.finished r, next) →
      service'.registerSchema s' state' = (.finished r', next') →
      (r.schemaId = r'.schemaId ∧ colons s.name = colons s'.name ∧
          colons s.version = colons s'.version ↔
        s.issuerId = s'.issuerId ∧ s.name = s'.name ∧ s.version = s'.version)) ∧
    ∀ d d' r r', service.registerDefinition d state = (.finished r, next) →
      service'.registerDefinition d' state' = (.finished r', next') →
      (r.definitionId = r'.definitionId ∧ colons d.type = colons d'.type ∧
          colons d.schemaId = colons d'.schemaId ∧ colons d.tag = colons d'.tag ↔
        d.issuerId = d'.issuerId ∧ d.type = d'.type ∧ d.schemaId = d'.schemaId ∧
          d.tag = d'.tag) := by
  constructor
  · intro s s' r r' h h'
    obtain rfl := registered_of_schema h
    obtain rfl := registered_of_schema h'
    exact Schema.ledgerId_eq_iff
  · intro d d' r r' h h'
    obtain rfl := registered_of_definition h
    obtain rfl := registered_of_definition h'
    exact Definition.ledgerId_eq_iff

/-- A service of one network whose ledger accepts everything. -/
def accepting : Service Nat := ⟨⟨[.new "testnet" "http://ledger"]⟩, .scripted []⟩

/-- A schema with a colon in its name. -/
def degree (attrNames : List String) : Schema := ⟨"did:testnet:i", "a:b", "c", attrNames⟩

/-- Two schemas that differ in their attributes only have one identifier. -/
theorem reportedIds_eq_iff_degree :
    accepting.registerSchema (degree ["x"]) 0 = (.finished (degree ["x"]).registered, 1) ∧
      accepting.registerSchema (degree []) 0 = (.finished (degree []).registered, 1) ∧
      (degree ["x"]).registered.schemaId = (degree []).registered.schemaId ∧
      colons (degree ["x"]).name = colons (degree []).name ∧
      colons (degree ["x"]).version = colons (degree []).version := by
  have h : accepting.registerSchema (degree ["x"]) 0 = (.finished (degree ["x"]).registered, 1) := by
    rfl
  have h' : accepting.registerSchema (degree []) 0 = (.finished (degree []).registered, 1) := by
    rfl
  have hiff := (reportedIds_eq_iff accepting accepting 0 1 0 1).1 _ _ _ _ h h'
  exact ⟨h, h', hiff.2 ⟨rfl, rfl, rfl⟩⟩

/-- **A colon that moves from one part to the next leaves the identifier as it is**, of
    schemas as of definitions. -/
theorem reportedIds_collide :
    (∃ r r', accepting.registerSchema ⟨"did:testnet:i", "a:b", "c", []⟩ 0 = (.finished r, 1) ∧
      accepting.registerSchema ⟨"did:testnet:i", "a", "b:c", []⟩ 0 = (.finished r', 1) ∧
      r.schemaId = r'.schemaId ∧ r.schema.name ≠ r'.schema.name) ∧
    ∃ r r', accepting.registerDefinition ⟨"did:testnet:i", "s:t", "CL", "u", .empty⟩ 0 =
        (.finished r, 1) ∧
      accepting.registerDefinition ⟨"did:testnet:i", "s", "CL", "t:u", .empty⟩ 0 =
        (.finished r', 1) ∧
      r.definitionId = r'.definitionId ∧ r.definition.tag ≠ r'.definition.tag :=
  ⟨⟨_, _, rfl, rfl, by decide, by decide⟩, _, _, rfl, rfl, by decide, by decide⟩

end DidLedger.Credential
