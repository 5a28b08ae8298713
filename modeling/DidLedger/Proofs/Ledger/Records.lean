/-
  DidLedger/Proofs/Ledger/Records.lean
  ====================================
  **The records of nyms stay well formed under any traffic.**

  A store keeps nyms, but what a ledger keeps is a JSON value under each key, and
  an update writes members into that value without a look at what it is: into a
  value that is neither an object nor `null` nothing can be written.  `Records` is
  the ledger at that level.  Its operations know nothing of nyms, and they come to
  a halt where a write is not possible.

  The records of a store are such values (`Store.records`), and a store and its
  records stay in step under every request (`handle_records`).  So from an empty
  ledger no write is ever impossible, and every record is the one of a nym
  (`handleAll_records`).
-/
import DidLedger.Proofs.Ledger.Steps
import Mathlib.Logic.Function.Basic

namespace DidLedger

/-- Writes a member into a value in place; `null` counts as an object without
    members, and no other value has room for one. -/
def Json.assign? (v : Json) (key : String) (value : Json) : Option Json :=
  match v with
  | .object members => some (.object (insertMember key value members))
  | .null => some (.object [(key, value)])
  | _ => none

namespace Ledger

open DidLedger.Text

/-- What is kept under each key, whatever it is. -/
abbrev Records := String → Option Json

/-! ### Requests on records -/

namespace Records

/-- What a request comes to; nothing if a write is not possible. -/
abbrev Result := Option (Except Rejection Json × Records)

def empty : Records := fun _ => none

def createNym (policy : DuplicatePolicy) (records : Records) (network : String)
    (operation : Json) : Except Rejection Json × Records :=
  match (operation.member "dest").text?, (operation.member "verkey").text? with
  | some dest, some verkey =>
    let did := (Did.mk network dest).display
    if policy = .reject ∧ (records did).isSome then
      (.error ⟨409, s!"nym {did} already exists"⟩, records)
    else (.ok (acceptedNym did), Function.update records did (some (.object
      [("did", .string did), ("role", operation.member "role"), ("verkey", .string verkey)])))
  | _, _ => (.error ⟨400, "missing dest or verkey"⟩, records)

def create (policy : DuplicatePolicy) (records : Records) (body : Json) :
    Except Rejection Json × Records :=
  match (body.member "type").text?, (body.member "network").text? with
  | none, _ => (.error ⟨400, "missing transaction type"⟩, records)
  | some _, none => (.error ⟨400, "missing network"⟩, records)
  | some kind, some network =>
    if kind = Kind.nym.name then createNym policy records network (operationIn body)
    else (.ok accepted, records)

/-- Writes the key into a record, unless it is the one that stands for no change. -/
def assignVerkey? (operation record : Json) : Option Json :=
  match (operation.member "verkey").text? with
  | some verkey =>
    if verkey = unchangedVerkey then some record
    else record.assign? "verkey" (.string verkey)
  | none => some record

def assignRole? (operation record : Json) : Option Json :=
  match (operation.member "role").text? with
  | some role => record.assign? "role" (.string role)
  | none => some record

def update (records : Records) (body : Json) : Result :=
  match (body.member "id").text? with
  | none => some (.error ⟨400, "missing id"⟩, records)
  | some id =>
    match records id with
    | none => some (.error (unknownNym id), records)
    | some record => do
      let record ← assignVerkey? (operationIn body) record
      let record ← assignRole? (operationIn body) record
      return (.ok accepted, Function.update records id (some record))

def read (records : Records) (id kind : String) : Except Rejection Json × Records :=
  if kind = Kind.nym.name then
    match records id with
    | some record => (.ok (.object [("result", record)]), records)
    | none => (.error (unknownNym id), records)
  else (.error ⟨404, s!"{kind} {id} not found"⟩, records)

def delete (records : Records) (id : String) : Except Rejection Json × Records :=
  match records id with
  | some _ => (.ok accepted, Function.update records id none)
  | none => (.error (unknownNym id), records)

def perform (policy : DuplicatePolicy) (records : Records) : Action → Result
  | .create body => some (create policy records body)
  | .update body => update records body
  | .read id kind => some (read records id kind)
  | .delete id => some (delete records id)

def handle (policy : DuplicatePolicy) (records : Records) (r : Request) : Result :=
  match Action.ofRequest r with
  | .ok action => perform policy records action
  | .error rejection => some (.error rejection, records)

def handleAll (policy : DuplicatePolicy) (records : Records) :
    List Request → Option (List (Except Rejection Json) × Records)
  | [] => some ([], records)
  | r :: requests => do
    let (answer, records) ← handle policy records r
    let (answers, records) ← handleAll policy records requests
    return (answer :: answers, records)

end Records

/-! ### Records of nyms -/

theorem assign?_verkey (n : Nym) (verkey : String) :
    n.toJson.assign? "verkey" (.string verkey) = some (Nym.toJson { n with verkey }) := by
  have hdid : ¬ "verkey" < "did" := by decide
  have hrole : ¬ "verkey" < "role" := by decide
  have hself : ¬ "verkey" < "verkey" := by decide
  simp only [Json.assign?, Nym.toJson, Json.insertMember, hdid, hrole, hself, String.reduceEq,
    if_true, if_false]

theorem assign?_role (n : Nym) (role : Json) :
    n.toJson.assign? "role" role = some (Nym.toJson { n with role }) := by
  have hdid : ¬ "role" < "did" := by decide
  have hself : ¬ "role" < "role" := by decide
  simp only [Json.assign?, Nym.toJson, Json.insertMember, hdid, hself, String.reduceEq, if_true,
    if_false]

theorem assignVerkey?_toJson (operation : Json) (n : Nym) :
    Records.assignVerkey? operation n.toJson =
      some (Nym.toJson { n with verkey := (Store.revise n operation).verkey }) := by
  unfold Records.assignVerkey? Store.revise
  cases (operation.member "verkey").text? with
  | none => rfl
  | some verkey =>
    by_cases hkeep : verkey = unchangedVerkey
    · simp only [if_pos hkeep]
    · simp only [if_neg hkeep, assign?_verkey]

theorem assignRole?_toJson (operation : Json) (n : Nym) :
    Records.assignRole? operation n.toJson =
      some (Nym.toJson { n with role := (Store.revise n operation).role }) := by
  unfold Records.assignRole? Store.revise
  cases (operation.member "role").text? with
  | none => rfl
  | some role => exact assign?_role n (.string role)

namespace Store

variable {s : Store} {r : Request}

/-- What is kept under each key. -/
def records (s : Store) : Records :=
  fun did => (s.nym? did).map Nym.toJson

theorem records_eq_some_iff {did : String} {record : Json} :
    s.records did = some record ↔ ∃ n, s.nym? did = some n ∧ n.toJson = record :=
  Option.map_eq_some_iff

theorem isSome_records (s : Store) (did : String) :
    (s.records did).isSome = (s.nym? did).isSome :=
  Option.isSome_map

theorem records_putNym (s : Store) (n : Nym) :
    (s.putNym n).records = Function.update s.records n.did (some n.toJson) := by
  funext did
  unfold records
  rw [nym?_putNym]
  by_cases h : did = n.did
  · rw [if_pos h, h, Function.update_self]
    rfl
  · rw [if_neg h, Function.update_of_ne h]

theorem records_removeNym (s : Store) (id : String) :
    (s.removeNym id).records = Function.update s.records id none := by
  funext did
  unfold records
  rw [nym?_removeNym]
  by_cases h : did = id
  · rw [if_pos h, h, Function.update_self]
    rfl
  · rw [if_neg h, Function.update_of_ne h]

/-! ### A store and its records in step -/

theorem createNym_records (s : Store) (network : String) (operation : Json) :
    Records.createNym s.policy s.records network operation =
      ((s.createNym network operation).1, (s.createNym network operation).2.records) := by
  unfold Records.createNym createNym
  cases (operation.member "dest").text? with
  | none => rfl
  | some dest =>
    cases (operation.member "verkey").text? with
    | none => rfl
    | some verkey =>
      simp only [isSome_records]
      split
      · rfl
      · rw [records_putNym]
        rfl

theorem create_records (s : Store) (body : Json) :
    Records.create s.policy s.records body =
      ((s.create body).1, (s.create body).2.records) := by
  unfold Records.create create
  cases (body.member "type").text? with
  | none => rfl
  | some kind =>
    cases (body.member "network").text? with
    | none => rfl
    | some network =>
      simp only
      split
      · exact createNym_records s network (operationIn body)
      · rfl

theorem update_records (s : Store) (body : Json) :
    Records.update s.records body = some ((s.update body).1, (s.update body).2.records) := by
  unfold Records.update update
  cases (body.member "id").text? with
  | none => rfl
  | some id =>
    simp only [records]
    cases hstored : s.nym? id with
    | none => rfl
    | some n =>
      -- The record is the one of a nym, so both writes find an object.
      have hdid : n.did = id := did_of_nym? hstored
      subst hdid
      simp only [Option.map_some, assignVerkey?_toJson, assignRole?_toJson, Option.bind_eq_bind,
        Option.bind_some]
      rw [← operationIn, records_putNym]
      rfl

theorem read_records (s : Store) (id kind : String) :
    Records.read s.records id kind = ((s.read id kind).1, (s.read id kind).2.records) := by
  unfold Records.read read
  split
  · simp only [records]
    cases s.nym? id with
    | none => rfl
    | some n => rfl
  · rfl

theorem delete_records (s : Store) (id : String) :
    Records.delete s.records id = ((s.delete id).1, (s.delete id).2.records) := by
  unfold Records.delete delete
  simp only [records]
  cases s.nym? id with
  | none => rfl
  | some n =>
    simp only [Option.map_some]
    rw [← records_removeNym]

/-- **A ledger on records does what the store does with every request**, and no
    write is impossible. -/
theorem handle_records (hforced : s.forced = none) (r : Request) :
    Records.handle s.policy s.records r = some ((s.handle r).1, (s.handle r).2.records) := by
  unfold Records.handle
  cases haction : Action.ofRequest r with
  | error rejection =>
    simp only [handle, hforced, haction]
  | ok action =>
    rw [handle_of_action hforced haction]
    cases action with
    | create body => exact congrArg some (create_records s body)
    | update body => exact update_records s body
    | read id kind => exact congrArg some (read_records s id kind)
    | delete id => exact congrArg some (delete_records s id)

theorem handleAll_records (hforced : s.forced = none) (requests : List Request) :
    Records.handleAll s.policy s.records requests =
      some ((s.handleAll requests).1, (s.handleAll requests).2.records) := by
  induction requests generalizing s with
  | nil => rfl
  | cons r requests ih =>
    have hrest := ih ((forced_handle s r).trans hforced)
    rw [policy_handle] at hrest
    simp only [Records.handleAll, handle_records hforced, Option.bind_eq_bind, Option.bind_some,
      hrest]
    rfl

/-! ### Where records come from -/

/-- A request asked for the nym of a DID and was accepted. -/
def Creates (did : String) (r : Request) (result : Except Rejection Json) : Prop :=
  (∃ answer, result = .ok answer) ∧ ∃ body network dest,
    r.Posts createPath body ∧ AsksForNym body network dest ∧ did = "did:" ++ network ++ ":" ++ dest

/-- A nym that is there after a request was there before, or the request created it. -/
theorem stored_or_creates {did : String} (h : ((s.handle r).2.nym? did).isSome) :
    (s.nym? did).isSome ∨ Creates did r (s.handle r).1 := by
  have hstep := handle_step s r
  generalize s.handle r = result at hstep h
  cases hstep with
  | created hpost hnym hverkey hnew =>
    rw [nym?_putNym] at h
    split at h
    · rename_i hdid
      exact .inr ⟨⟨_, rfl⟩, _, _, _, hpost, hnym, hdid⟩
    · exact .inl h
  | @revised body id n hpost hid hstored =>
    rw [nym?_putNym] at h
    split at h
    · rename_i hdid
      have hself : n.did = id := did_of_nym? hstored
      rw [hdid, revise, hself, hstored]
      exact .inl rfl
    · exact .inl h
  | deleted hmethod hpath hdecode =>
    rw [nym?_removeNym] at h
    split at h
    · cases h
    · exact .inl h
  | _ => exact .inl h

theorem stored_or_exists_creates {did : String} {requests : List Request}
    (h : ((s.handleAll requests).2.nym? did).isSome) :
    (s.nym? did).isSome ∨
      ∃ p ∈ requests.zip (s.handleAll requests).1, Creates did p.1 p.2 := by
  induction requests generalizing s with
  | nil => exact .inl h
  | cons r requests ih =>
    rcases ih h with hstored | ⟨p, hp, hcreates⟩
    · rcases stored_or_creates hstored with hold | hcreates
      · exact .inl hold
      · exact .inr ⟨(r, (s.handle r).1), List.mem_cons_self, hcreates⟩
    · exact .inr ⟨p, List.mem_cons_of_mem _ hp, hcreates⟩

/-- Under the rejecting policy creation leaves the nyms alone that are there. -/
theorem nym?_handle_of_reject (hpolicy : s.policy = .reject) (hmethod : r.method = .post)
    (hpath : r.path = createPath) {did : String} {n : Nym} (hn : s.nym? did = some n) :
    (s.handle r).2.nym? did = some n := by
  have hstep := handle_step s r
  generalize s.handle r = result at hstep
  cases hstep with
  | rejected rejection => exact hn
  | created hpost hnym hverkey hnew =>
    rw [nym?_putNym, if_neg, hn]
    rintro rfl
    rw [hnew hpolicy] at hn
    cases hn
  | filed hpost hkind htype => exact hn
  | revised hpost hid hstored =>
    rw [hpost.path_eq] at hpath
    exact absurd hpath (by decide)
  | shown hget hstored => exact hn
  | deleted hdelete hpath hdecode =>
    rw [hmethod] at hdelete
    cases hdelete

/-- **After any traffic on an empty ledger every record is well formed.**  The
    ledger on records never comes to a halt; the record under a DID is an object
    with that DID, a role and a key that is a text, which an accepted creation
    asked for and which a read of the DID shows; and under the rejecting policy
    creation changes no record. -/
theorem records_wellFormed (policy : DuplicatePolicy) (requests : List Request) :
    let answers := ((Store.empty policy).handleAll requests).1
    let s := ((Store.empty policy).handleAll requests).2
    Records.handleAll policy Records.empty requests = some (answers, s.records) ∧
      (∀ did record, s.records did = some record →
        (∃ role verkey, record = .object
          [("did", .string did), ("role", role), ("verkey", .string verkey)]) ∧
        (∃ p ∈ requests.zip answers, Creates did p.1 p.2) ∧
        ∀ body, s.handle ⟨.get, readPath did .nym, body⟩ =
          (.ok (.object [("result", record)]), s)) ∧
      (policy = .reject → ∀ r : Request, r.method = .post → r.path = createPath →
        ∀ did record, s.records did = some record →
          (s.handle r).2.records did = some record) := by
  intro answers s
  have hsettings : s.policy = policy ∧ s.forced = none := by
    apply handleAll_keeps (P := fun s => s.policy = policy ∧ s.forced = none) _ ⟨rfl, rfl⟩
    intro s r hs
    rw [policy_handle, forced_handle]
    exact hs
  have hrun := handleAll_records (s := Store.empty policy) rfl requests
  refine ⟨hrun, ?_, ?_⟩
  · intro did record hrecord
    rcases records_eq_some_iff.1 hrecord with ⟨n, hn, rfl⟩
    refine ⟨⟨n.role, n.verkey, ?_⟩, ?_, ?_⟩
    · rw [Nym.toJson, did_of_nym? hn]
    · have hstored : (s.nym? did).isSome := by
        rw [hn]
        rfl
      rcases stored_or_exists_creates hstored with hnone | hcreates
      · cases hnone
      · exact hcreates
    · intro body
      rw [handle_readPath hsettings.2]
      simp only [read, Kind.name, if_true, hn]
  · intro hpolicy r hmethod hpath did record hrecord
    rcases records_eq_some_iff.1 hrecord with ⟨n, hn, rfl⟩
    have hkept := nym?_handle_of_reject (hsettings.1.trans hpolicy) hmethod hpath hn
    exact records_eq_some_iff.2 ⟨n, hkept, rfl⟩

end Store
end Ledger
end DidLedger
