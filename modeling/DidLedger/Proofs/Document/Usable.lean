/-
  DidLedger/Proofs/Document/Usable.lean
  =====================================
  **Documents that are written and read come back if they can be used.**

  Every document is written as a value that reads as the same document: it has no part
  that was kept as it was found, and its fields can be told apart.  So whether what was
  written is accepted is up to the document alone, and the two things that are asked of
  it are an id and a verification method (`parse_toJson`).

  Reading takes more than is ever written: absent fields, arrays in place of objects,
  types spelled as objects.  What it gives is usable all the same, and so it comes back
  from the one form that is written.
-/
import DidLedger.Proofs.Document.Authentication
import DidLedger.Proofs.Shape.WireTypes

namespace DidLedger

theorem VerificationMethod.canonical (m : VerificationMethod) : shape.Canonical m :=
  ⟨trivial, trivial, trivial, trivial, trivial⟩

namespace Document

variable {d : Document}

theorem canonical (d : Document) : shape.Canonical d := by
  have hmethods : (Shape.sequence VerificationMethod.shape).Canonical d.verificationMethod :=
    fun m _ => m.canonical
  exact ⟨fun _ _ => trivial, trivial, hmethods, fun _ _ => trivial, trivial⟩

/-! ### Usable documents -/

/-- A document that says whom it is about and has a key. -/
structure Usable (d : Document) : Prop where
  id_ne_empty : d.id ≠ ""
  methods_ne_nil : d.verificationMethod ≠ []

theorem check_of_usable (h : d.Usable) : d.check = .ok d := by
  rw [check, if_neg, if_neg]
  · rw [List.isEmpty_iff]
    exact h.methods_ne_nil
  · rw [String.isEmpty_iff]
    exact h.id_ne_empty

theorem check_of_not_usable (h : ¬d.Usable) :
    ∃ detail, d.check = .error (.malformedDocument detail) := by
  unfold check
  split
  · exact ⟨_, rfl⟩
  · rename_i hid
    split
    · exact ⟨_, rfl⟩
    · rename_i hmethods
      rw [String.isEmpty_iff] at hid
      rw [List.isEmpty_iff] at hmethods
      exact absurd ⟨hid, hmethods⟩ h

theorem check_eq_ok_iff {d' : Document} : d.check = .ok d' ↔ d.Usable ∧ d = d' := by
  by_cases h : d.Usable
  · rw [check_of_usable h, Except.ok.injEq]
    exact (and_iff_right h).symm
  · obtain ⟨detail, hcheck⟩ := check_of_not_usable h
    rw [hcheck]
    constructor
    · intro heq
      cases heq
    · intro hd
      exact absurd hd.1 h

/-! ### Writing and reading -/

/-- **What was written is read, and then looked at.** -/
theorem parse_toJson (d : Document) : parse (shape.toJson d) = d.check := by
  rw [parse, shape.readValue_toJson regular_shape d.canonical]

theorem parse_toJson_iff : parse (shape.toJson d) = .ok d ↔ d.Usable := by
  rw [parse_toJson, check_eq_ok_iff]
  exact and_iff_left rfl

theorem usable_of_parse {v : Json} (h : parse v = .ok d) : d.Usable := by
  unfold parse at h
  split at h
  · rename_i read hread
    obtain ⟨husable, rfl⟩ := check_eq_ok_iff.1 h
    exact husable
  · cases h

/-! ### Documents that were built -/

theorem usable_extend_iff {steps : List Step} :
    (d.extend steps).Usable ↔
      d.id ≠ "" ∧ (d.verificationMethod ≠ [] ∨ ∃ m, .verificationMethod m ∈ steps) := by
  have hadded : steps.flatMap Step.methods = [] ↔ ¬∃ m, .verificationMethod m ∈ steps := by
    simp only [List.eq_nil_iff_forall_not_mem, mem_methods_iff, not_exists]
  have hmethods : (d.extend steps).verificationMethod ≠ [] ↔
      d.verificationMethod ≠ [] ∨ ∃ m, .verificationMethod m ∈ steps := by
    rw [verificationMethod_extend, ne_eq, List.append_eq_nil_iff, hadded, not_and_or, not_not]
  rw [← hmethods, ← id_extend d steps]
  exact ⟨fun h => ⟨h.id_ne_empty, h.methods_ne_nil⟩, fun h => ⟨h.1, h.2⟩⟩

theorem usable_build {did : String} (h : did ≠ "") (key : String) : (build did key).Usable :=
  ⟨h, List.cons_ne_nil _ _⟩

theorem authenticationKey?_build (did key : String) :
    (build did key).authenticationKey? = some ⟨keyId did, .ed25519, did, key⟩ :=
  authenticationKey?_eq_some_iff.2 ⟨[], keyId did, ⟨[], rfl⟩, nofun, rfl, [], [], rfl, nofun⟩

/-- **Reading undoes writing on the usable documents, and gives no others.**  A document
    that was built up is usable if it has an id and was ever given a method; the one that
    is built of a DID and a key has one method, and authenticates with it. -/
theorem parse_inverts_toJson :
    (∀ d : Document, (parse (shape.toJson d) = .ok d ↔ d.Usable) ∧
      (¬d.Usable → ∃ detail, parse (shape.toJson d) = .error (.malformedDocument detail))) ∧
    (∀ (d : Document) (steps : List Step),
      parse (shape.toJson (d.extend steps)) = .ok (d.extend steps) ↔
        d.id ≠ "" ∧ (d.verificationMethod ≠ [] ∨ ∃ m, .verificationMethod m ∈ steps)) ∧
    (∀ (v : Json) (d : Document), parse v = .ok d →
      d.Usable ∧ parse (shape.toJson d) = .ok d) ∧
    ∀ did key : String, did ≠ "" →
      parse (shape.toJson (build did key)) = .ok (build did key) ∧
      ∃ m, (build did key).verificationMethod = [m] ∧ m.id = did ++ "#key-1" ∧
        m.publicKeyBase58 = key ∧ (build did key).authenticationKey? = some m := by
  refine ⟨?_, ?_, ?_, ?_⟩
  · intro d
    refine ⟨parse_toJson_iff, fun h => ?_⟩
    rw [parse_toJson]
    exact check_of_not_usable h
  · intro d steps
    rw [parse_toJson_iff, usable_extend_iff]
  · intro v d hparse
    have husable := usable_of_parse hparse
    exact ⟨husable, parse_toJson_iff.2 husable⟩
  · intro did key hdid
    refine ⟨parse_toJson_iff.2 (usable_build hdid key), ⟨keyId did, .ed25519, did, key⟩, rfl, ?_,
      rfl, authenticationKey?_build did key⟩
    rw [keyId, keyFragment, String.append_assoc]
    rfl

/-- A document with a method as an array, its type spelled as an object, and a member that
    no field answers to; it has no context and no references. -/
theorem parse_inverts_toJson_loose :
    let v : Json := .object [("id", .string "did:testnet:demo123"), ("proof", .null),
      ("verificationMethod", .array [.array [.string "#a",
        .object [("Ed25519VerificationKey2018", .null)], .string "did:testnet:demo123",
        .string "A"]])]
    let d : Document :=
      ⟨[], "did:testnet:demo123", [⟨"#a", .ed25519, "did:testnet:demo123", "A"⟩], []⟩
    parse v = .ok d ∧ d.Usable ∧ parse (shape.toJson d) = .ok d ∧
      parse (shape.toJson (build "did:testnet:demo123" "")) =
        .ok (build "did:testnet:demo123" "") := by
  intro v d
  have hparse : parse v = .ok d := by rfl
  obtain ⟨-, -, hread, hbuild⟩ := parse_inverts_toJson
  obtain ⟨husable, hagain⟩ := hread v d hparse
  exact ⟨hparse, husable, hagain, (hbuild "did:testnet:demo123" "" (by decide)).1⟩

end Document
end DidLedger
