/-
  DidLedger/Proofs/Service/Answer.lean
  ====================================
  **What a resolution takes from the answer to a read.**

  Meant is the member `verkey` of the member `result` (`statedKey?`).  The reader
  takes an answer apart as a record of a record, and so it looks at more: it
  wants the DID and the role in the record to be texts or `null` where they are
  there, and it also accepts arrays in place of the objects (`answerKey?`).
-/
import DidLedger.Ledger.Transaction
import DidLedger.Proofs.Json.WellFormed
import DidLedger.Proofs.Service.Plan
import DidLedger.Proofs.Shape.Record
import DidLedger.Service.Basic

namespace DidLedger

open DidLedger.Ledger
open DidLedger.Json (Written)

/-! ### Keys in answers -/

/-- Whether a value is a text or `null`. -/
def Json.isTextOrNull : Json → Bool
  | .string _ => true
  | .null => true
  | _ => false

/-- The key that is meant: the member `verkey` of the member `result`. -/
def statedKey? (answer : Json) : Option String :=
  ((answer.member "result").member "verkey").text?

/-- The key that the reader finds in the record of a nym. -/
def nymKey? : Json → Option String
  | .object members =>
    let nym := Json.object members
    if (nym.member "did").isTextOrNull && (nym.member "role").isTextOrNull then
      (nym.member "verkey").text?
    else none
  | .array [did, verkey] => if did.isTextOrNull then verkey.text? else none
  | .array [did, verkey, role] =>
    if did.isTextOrNull && role.isTextOrNull then verkey.text? else none
  | _ => none

/-- The key that the reader finds in an answer. -/
def answerKey? : Json → Option String
  | .object members => nymKey? ((Json.object members).member "result")
  | .array [nym] => nymKey? nym
  | _ => none

/-! ### Texts -/

theorem readValue_string_eq_ok_iff {v : Json} {s : String} :
    Shape.string.readValue v = .ok s ↔ v.text? = some s := by
  cases v <;> simp [Shape.readValue, Written.ofJson, Shape.read, Json.text?]

theorem exists_readValue_optional_string {v : Json} :
    (∃ o, (Shape.optional .string).readValue v = .ok o) ↔ v.isTextOrNull = true := by
  cases v <;>
    simp [Shape.readValue, Written.ofJson, Shape.read, Json.isTextOrNull, Except.map]

/-! ### The record of a nym -/

theorem readValue_nym_object {members : List (String × Json)}
    (hkeys : (members.map Prod.fst).Nodup) {key : String} :
    (∃ r, NymRecord.shape.readValue (.object members) = .ok r ∧ r.verkey = key) ↔
      nymKey? (.object members) = some key := by
  have hfields : ∀ did verkey role,
      (Fields.cons (Field.trailing "did") (.optional .string)
        (.cons (.required "verkey") .string
          (.cons (.trailing "role") (.optional .string) .nil))).ofMembers members =
        .ok (did, verkey, role, ()) ↔
      (Shape.optional .string).readValue ((Json.object members).member "did") = .ok did ∧
        ((Json.object members).member "verkey").text? = some verkey ∧
          (Shape.optional .string).readValue ((Json.object members).member "role") = .ok role := by
    intro did verkey role
    refine Fields.ofMembers_cons_eq_ok_iff.trans (and_congr ?_
      (Fields.ofMembers_cons_eq_ok_iff.trans (and_congr ?_
        (Fields.ofMembers_cons_eq_ok_iff.trans ?_))))
    · exact ofMembers_trailing_eq_ok_iff hkeys
    -- what an earlier field takes away answers to no later field
    · rw [Field.ofMembers_filter (by simp [Field.answersTo, Field.required, Field.trailing]),
        ofMembers_required_eq_ok_iff (by simp [readValue_string_eq_ok_iff, Json.text?]) hkeys,
        readValue_string_eq_ok_iff]
    · rw [Field.ofMembers_filter (by simp [Field.answersTo, Field.required, Field.trailing]),
        Field.ofMembers_filter (by simp [Field.answersTo, Field.trailing]),
        ofMembers_trailing_eq_ok_iff hkeys]
      exact and_iff_left rfl
  simp only [nymKey?]
  constructor
  · rintro ⟨r, hr, rfl⟩
    obtain ⟨⟨did, verkey, role, ⟨⟩⟩, hrow, rfl⟩ := readValue_object_eq_ok_iff.1 hr
    obtain ⟨hdid, hverkey, hrole⟩ := (hfields did verkey role).1 hrow
    have hdid' := exists_readValue_optional_string.1 ⟨did, hdid⟩
    have hrole' := exists_readValue_optional_string.1 ⟨role, hrole⟩
    rw [hdid', hrole', Bool.and_self, if_pos rfl]
    exact hverkey
  · intro hkey
    split at hkey
    · rename_i htexts
      rw [Bool.and_eq_true] at htexts
      obtain ⟨did, hdid⟩ := exists_readValue_optional_string.2 htexts.1
      obtain ⟨role, hrole⟩ := exists_readValue_optional_string.2 htexts.2
      have hrow := (hfields did key role).2 ⟨hdid, hkey, hrole⟩
      exact ⟨⟨did, key, role⟩, readValue_object_eq_ok_iff.2 ⟨_, hrow, rfl⟩, rfl⟩
    · cases hkey

theorem readValue_nym_array {elements : List Json} {key : String} :
    (∃ r, NymRecord.shape.readValue (.array elements) = .ok r ∧ r.verkey = key) ↔
      nymKey? (.array elements) = some key := by
  constructor
  · rintro ⟨r, hr, rfl⟩
    obtain ⟨⟨did, verkey, role, ⟨⟩⟩, hrow, rfl⟩ := readValue_array_eq_ok_iff.1 hr
    match elements with
    | [] => exact absurd hrow.2.2.1 Bool.false_ne_true
    | [d] => exact absurd hrow.2.1 Bool.false_ne_true
    | [d, v] =>
      obtain ⟨hdid, hverkey, -, -, -⟩ := hrow
      have hd := exists_readValue_optional_string.1 ⟨did, hdid⟩
      have hv := readValue_string_eq_ok_iff.1 hverkey
      simp only [nymKey?, hd, if_true]
      exact hv
    | [d, v, r] =>
      obtain ⟨hdid, hverkey, hrole, -⟩ := hrow
      have hd := exists_readValue_optional_string.1 ⟨did, hdid⟩
      have hr := exists_readValue_optional_string.1 ⟨role, hrole⟩
      have hv := readValue_string_eq_ok_iff.1 hverkey
      simp only [nymKey?, hd, hr, Bool.and_self, if_true]
      exact hv
    | d :: v :: r :: e :: rest => exact absurd hrow.2.2.2 (List.cons_ne_nil e rest)
  · intro hkey
    match elements with
    | [] => cases hkey
    | [d] => cases hkey
    | [d, v] =>
      simp only [nymKey?] at hkey
      split at hkey
      · rename_i hd
        obtain ⟨did, hdid⟩ := exists_readValue_optional_string.2 hd
        refine ⟨⟨did, key, none⟩, readValue_array_eq_ok_iff.2 ⟨(did, key, none, ()), ?_, rfl⟩, rfl⟩
        exact ⟨hdid, readValue_string_eq_ok_iff.2 hkey, rfl, rfl, rfl⟩
      · cases hkey
    | [d, v, r] =>
      simp only [nymKey?] at hkey
      split at hkey
      · rename_i htexts
        rw [Bool.and_eq_true] at htexts
        obtain ⟨did, hdid⟩ := exists_readValue_optional_string.2 htexts.1
        obtain ⟨role, hrole⟩ := exists_readValue_optional_string.2 htexts.2
        refine ⟨⟨did, key, role⟩, readValue_array_eq_ok_iff.2 ⟨(did, key, role, ()), ?_, rfl⟩, rfl⟩
        exact ⟨hdid, readValue_string_eq_ok_iff.2 hkey, hrole, rfl⟩
      · cases hkey
    | d :: v :: r :: e :: rest => cases hkey

theorem readValue_nym {v : Json} (hv : v.WellFormed) {key : String} :
    (∃ r, NymRecord.shape.readValue v = .ok r ∧ r.verkey = key) ↔ nymKey? v = some key := by
  cases v with
  | object members => exact readValue_nym_object hv.nodup_keys
  | array elements => exact readValue_nym_array
  | _ =>
    constructor
    · rintro ⟨r, hr, -⟩
      cases hr
    · intro hkey
      cases hkey

/-! ### Answers -/

/-- **The reader finds in an answer the key that `answerKey?` says.** -/
theorem readValue_answer {v : Json} (hv : v.WellFormed) {key : String} :
    (∃ r, ReadResponse.shape.readValue v = .ok r ∧ r.result.verkey = key) ↔
      answerKey? v = some key := by
  cases v with
  | object members =>
    have hfields : ∀ nym, (Fields.cons (Field.required "result") NymRecord.shape .nil).ofMembers
        members = .ok (nym, ()) ↔
        NymRecord.shape.readValue ((Json.object members).member "result") = .ok nym := by
      intro nym
      refine Fields.ofMembers_cons_eq_ok_iff.trans ((and_iff_left rfl).trans ?_)
      exact ofMembers_required_eq_ok_iff (fun r h => by cases h) hv.nodup_keys
    rw [answerKey?, ← readValue_nym (hv.member "result")]
    constructor
    · rintro ⟨r, hr, rfl⟩
      obtain ⟨⟨nym, ⟨⟩⟩, hrow, rfl⟩ := readValue_object_eq_ok_iff.1 hr
      exact ⟨nym, (hfields nym).1 hrow, rfl⟩
    · rintro ⟨nym, hnym, rfl⟩
      exact ⟨⟨nym⟩, readValue_object_eq_ok_iff.2 ⟨_, (hfields nym).2 hnym, rfl⟩, rfl⟩
  | array elements =>
    constructor
    · rintro ⟨r, hr, rfl⟩
      obtain ⟨⟨nym, ⟨⟩⟩, hrow, rfl⟩ := readValue_array_eq_ok_iff.1 hr
      match elements with
      | [] => exact absurd hrow.1 Bool.false_ne_true
      | [e] => exact (readValue_nym hv.1).1 ⟨nym, hrow.1, rfl⟩
      | e :: e' :: rest => exact absurd hrow.2 (List.cons_ne_nil e' rest)
    · intro hkey
      match elements with
      | [] => cases hkey
      | [e] =>
        obtain ⟨nym, hnym, rfl⟩ := (readValue_nym hv.1).2 hkey
        exact ⟨⟨nym⟩, readValue_array_eq_ok_iff.2 ⟨(nym, ()), ⟨hnym, rfl⟩, rfl⟩, rfl⟩
      | e :: e' :: rest => cases hkey
  | _ =>
    constructor
    · rintro ⟨r, hr, -⟩
      cases hr
    · intro hkey
      cases hkey

/-! ### Resolutions -/

/-- What a resolution has to come to if an answer has this key, or none. -/
def Resolved.IsFor (did : String) : Option String → Resolved → Prop
  | some key, r => r = .found (Document.build did key)
  | none, r => ∃ message, r = .error message

theorem Document.key_of_build {did key key' : String}
    (h : Document.build did key = Document.build did key') : key = key' := by
  have hmethods := congrArg Document.verificationMethod h
  simp only [Document.build, Document.addAuthentication, Document.addMethod, Document.new,
    List.nil_append, List.cons.injEq, VerificationMethod.mk.injEq, true_and, and_true] at hmethods
  exact hmethods

/-- A resolution tells which key the answer had. -/
theorem Resolved.IsFor.unique {did : String} {key key' : Option String} {r : Resolved}
    (h : r.IsFor did key) (h' : r.IsFor did key') : key = key' := by
  cases key with
  | none =>
    obtain ⟨message, rfl⟩ := h
    cases key' with
    | none => rfl
    | some key' => cases h'
  | some key =>
    cases h
    cases key' with
    | none =>
      obtain ⟨message, herror⟩ := h'
      cases herror
    | some key' =>
      have hdocument := Resolved.found.inj h'
      rw [Document.key_of_build hdocument]

theorem isFor_documentOf {v : Json} (hv : v.WellFormed) (did : String) :
    (Service.documentOf did v).IsFor did (answerKey? v) := by
  unfold Service.documentOf
  split
  · rename_i r hr
    rw [(readValue_answer hv).1 ⟨r, hr, rfl⟩]
    rfl
  · rename_i misfit hmisfit
    cases hkey : answerKey? v with
    | none => exact ⟨_, rfl⟩
    | some key =>
      obtain ⟨r, hr, -⟩ := (readValue_answer hv).2 hkey
      rw [hmisfit] at hr
      cases hr

/-- Whether the reader finds another key in an answer than the one that is
    meant: a key next to a DID or a role that is no text, or one in an array. -/
def misreads : Json → Bool
  | .object members =>
    match (Json.object members).member "result" with
    | .object nym =>
      ((Json.object nym).member "verkey").text?.isSome &&
        !(((Json.object nym).member "did").isTextOrNull &&
          ((Json.object nym).member "role").isTextOrNull)
    | nym => (nymKey? nym).isSome
  | v => (answerKey? v).isSome

theorem answerKey?_eq_statedKey?_iff (v : Json) :
    answerKey? v = statedKey? v ↔ misreads v = false := by
  cases v with
  | object members =>
    simp only [answerKey?, statedKey?, misreads]
    cases (Json.object members).member "result" with
    | object nym =>
      simp only [nymKey?]
      cases ((Json.object nym).member "did").isTextOrNull &&
          ((Json.object nym).member "role").isTextOrNull with
      | true => simp
      | false =>
        cases ((Json.object nym).member "verkey").text? with
        | none => simp
        | some key => simp
    | array elements => simp [Json.member, Json.text?]
    | _ => simp [nymKey?, Json.member, Json.text?]
  | array elements => simp [statedKey?, misreads, Json.member, Json.text?]
  | _ => simp [answerKey?, statedKey?, misreads, Json.member, Json.text?]

namespace Service

variable {σ : Type}

theorem resolve_of_answer (service : Service σ) {did : String} {parsed : Did} {network : Network}
    (hparse : Did.parse did = .ok parsed)
    (hfind : service.registry.find parsed.network = .ok network) {s s' : σ} {v : Json}
    (hanswer : service.transport network (Errand.read network did).request s = (.ok v, s')) :
    service.resolve did s = (documentOf did v, s') := by
  have hplan : service.registry.planResolve did = .ok (.read network did) :=
    Registry.planResolve_eq_ok_iff.2
      ⟨parsed, network, Registry.locate_eq_ok_iff.2 ⟨Did.parse_eq_ok_iff.1 hparse, hfind⟩, rfl⟩
  have htransport : service.transport (Errand.read network did).network
      (Errand.read network did).request s = (.ok v, s') := hanswer
  simp only [resolve, hplan, htransport]

/-- **A resolution depends on the answer through `answerKey?` alone, and so it
    does what is meant exactly on the answers that are not misread.** -/
theorem resolve_isFor_answerKey? (service : Service σ) {did : String} {parsed : Did}
    {network : Network} (hparse : Did.parse did = .ok parsed)
    (hfind : service.registry.find parsed.network = .ok network) {s s' : σ} {v : Json}
    (hv : v.WellFormed)
    (hanswer : service.transport network (Errand.read network did).request s = (.ok v, s')) :
    (service.resolve did s).1.IsFor did (answerKey? v) ∧
      ((service.resolve did s).1.IsFor did (statedKey? v) ↔ misreads v = false) := by
  rw [resolve_of_answer service hparse hfind hanswer, ← answerKey?_eq_statedKey?_iff]
  have hfor := isFor_documentOf hv did
  refine ⟨hfor, ?_⟩
  constructor
  · intro hstated
    exact hfor.unique hstated
  · intro heq
    rw [← heq]
    exact hfor

/-- A service on one network, whose ledger gives the same answer every time. -/
def answering (answer : Json) : Service Nat :=
  ⟨⟨[.new "testnet" "http://ledger"]⟩, Transport.scripted [.ok answer]⟩

/-- An answer with a key, next to a role that is a number. -/
def numericRole : Json :=
  .object [("result", .object [("role", .ofNat 101), ("verkey", .string "K")])]

theorem resolve_isFor_numericRole :
    ((answering numericRole).resolve "did:testnet:demo123" 0).1.IsFor "did:testnet:demo123"
        (answerKey? numericRole) ∧
      (((answering numericRole).resolve "did:testnet:demo123" 0).1.IsFor "did:testnet:demo123"
        (statedKey? numericRole) ↔ misreads numericRole = false) := by
  have hv : numericRole.WellFormed := by
    refine ⟨List.pairwise_singleton _ _, ⟨?_, ⟨by decide, by decide⟩, trivial, trivial⟩, trivial⟩
    exact List.pairwise_map.1 (show ["role", "verkey"].Pairwise (· < ·) by decide)
  have hparse : Did.parse "did:testnet:demo123" = .ok ⟨"testnet", "demo123"⟩ := rfl
  exact resolve_isFor_answerKey? (answering numericRole) hparse rfl hv rfl

/-- The key is there, and the resolution fails. -/
theorem not_isFor_statedKey?_numericRole :
    ¬ ((answering numericRole).resolve "did:testnet:demo123" 0).1.IsFor "did:testnet:demo123"
      (statedKey? numericRole) := by
  intro hfor
  have hfound : ((answering numericRole).resolve "did:testnet:demo123" 0).1 =
      .found (Document.build "did:testnet:demo123" "K") := hfor
  exact absurd hfound (by decide)

end Service
end DidLedger
