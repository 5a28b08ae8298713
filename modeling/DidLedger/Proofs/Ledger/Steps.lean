/-
  DidLedger/Proofs/Ledger/Steps.lean
  ==================================
  **What a ledger can do with a request.**

  A ledger takes any traffic: bodies of any form, paths that name nothing, escapes
  that are broken.  `Step` lists what can come of a request, with what the request
  has to be for it, and `handle_step` says that the list is complete.  It is the
  only place where the dispatch is taken apart; what holds of single requests is
  read off the rules, one case for each.

  `handleAll` hands in one request after the other.
-/
import DidLedger.Proofs.Ledger.Filing
import DidLedger.Proofs.Ledger.Requests

namespace DidLedger

open DidLedger.Text

theorem Json.text?_eq_some_iff {v : Json} {text : String} :
    v.text? = some text ↔ v = .string text := by
  cases v <;> simp [Json.text?]

/-- A request posts a body to a path. -/
structure Request.Posts (r : Request) (path : String) (body : Json) : Prop where
  method_eq : r.method = .post
  path_eq : r.path = path
  body_eq : r.body = some body

namespace Ledger

/-- The operation on a nym that a body holds. -/
def operationIn (body : Json) : Json :=
  (body.member "transaction").member "operation"

/-- A body that asks for a nym of an identifier on a network. -/
structure AsksForNym (body : Json) (network dest : String) : Prop where
  type_eq : body.member "type" = .string Kind.nym.name
  network_eq : body.member "network" = .string network
  dest_eq : (operationIn body).member "dest" = .string dest

namespace Store

variable {s : Store} {r : Request}

/-! ### The rules -/

inductive Step (s : Store) (r : Request) : Result → Prop
  | rejected (rejection : Rejection) : Step s r (.error rejection, s)
  | created {body : Json} {network dest verkey : String}
      (hpost : r.Posts createPath body) (hnym : AsksForNym body network dest)
      (hverkey : (operationIn body).member "verkey" = .string verkey)
      (hnew : s.policy = .reject → s.nym? (Did.mk network dest).display = none) :
      Step s r (.ok (acceptedNym (Did.mk network dest).display),
        s.putNym ⟨(Did.mk network dest).display, verkey, (operationIn body).member "role"⟩)
  | filed {body : Json} {kind : String}
      (hpost : r.Posts createPath body) (hkind : kind ≠ Kind.nym.name)
      (htype : body.member "type" = .string kind) :
      Step s r (.ok accepted, s.addBody kind body)
  | revised {body : Json} {id : String} {n : Nym}
      (hpost : r.Posts updatePath body) (hid : body.member "id" = .string id)
      (hstored : s.nym? id = some n) :
      Step s r (.ok accepted, s.putNym (revise n (operationIn body)))
  | shown {id : String} {n : Nym} (hmethod : r.method = .get) (hstored : s.nym? id = some n) :
      Step s r (.ok (.object [("result", n.toJson)]), s)
  | deleted {segment id : String} (hmethod : r.method = .delete)
      (hpath : r.path = deleteRoot ++ segment) (hdecode : Percent.decode? segment = .ok id) :
      Step s r (.ok accepted, s.removeNym id)

/-- A body in which a text is found was sent. -/
theorem posts_of_member {path key text : String} (hmethod : r.method = .post)
    (hpath : r.path = path) (htext : (r.body.getD .null).member key = .string text) :
    r.Posts path (r.body.getD .null) := by
  refine ⟨hmethod, hpath, ?_⟩
  cases hbody : r.body with
  | none =>
    rw [hbody] at htext
    cases htext
  | some body => rfl

theorem create_step (hmethod : r.method = .post) (hpath : r.path = createPath) :
    s.Step r (s.create (r.body.getD .null)) := by
  unfold create
  split
  · exact .rejected _
  · exact .rejected _
  · rename_i kind network htype hnetwork
    rw [Json.text?_eq_some_iff] at htype hnetwork
    have hpost := posts_of_member hmethod hpath htype
    split
    · rename_i hkind
      subst hkind
      unfold createNym
      split
      · rename_i dest verkey hdest hverkey
        rw [Json.text?_eq_some_iff] at hdest hverkey
        dsimp only
        split
        · exact .rejected _
        · rename_i hnew
          apply Step.created hpost ⟨htype, hnetwork, hdest⟩ hverkey
          intro hpolicy
          cases hstored : s.nym? (Did.mk network dest).display with
          | none => rfl
          | some n => exact absurd ⟨hpolicy, by rw [hstored]; rfl⟩ hnew
      · exact .rejected _
    · rename_i hkind
      exact .filed hpost hkind htype

theorem update_step (hmethod : r.method = .post) (hpath : r.path = updatePath) :
    s.Step r (s.update (r.body.getD .null)) := by
  unfold update
  split
  · exact .rejected _
  · rename_i id hid
    rw [Json.text?_eq_some_iff] at hid
    split
    · exact .rejected _
    · rename_i n hstored
      exact .revised (posts_of_member hmethod hpath hid) hid hstored

theorem read_step (hmethod : r.method = .get) (id kind : String) : s.Step r (s.read id kind) := by
  unfold read
  split
  · split
    · rename_i n hstored
      exact .shown hmethod hstored
    · exact .rejected _
  · exact .rejected _

theorem delete_step {segment id : String} (hmethod : r.method = .delete)
    (hpath : r.path = deleteRoot ++ segment) (hdecode : Percent.decode? segment = .ok id) :
    s.Step r (s.delete id) := by
  unfold delete
  split
  · exact .deleted hmethod hpath hdecode
  · exact .rejected _

theorem decode?_of_decodeSegment {segment : List Char} {id : String}
    (h : decodeSegment segment = .ok id) : Percent.decode? (String.ofList segment) = .ok id := by
  unfold decodeSegment at h
  split at h
  · rename_i text htext
    cases h
    exact htext
  · cases h

theorem perform_step {action : Action} (h : Action.ofRequest r = .ok action) :
    s.Step r (s.perform action) := by
  unfold Action.ofRequest at h
  cases hmethod : r.method with
  | post =>
    simp only [hmethod] at h
    split at h
    · rename_i hpath
      cases h
      exact create_step hmethod hpath
    · split at h
      · rename_i hpath
        cases h
        exact update_step hmethod hpath
      · cases h
  | get =>
    simp only [hmethod] at h
    split at h
    · split at h
      · rename_i segment kind _
        cases hsegment : decodeSegment segment with
        | error rejection =>
          rw [hsegment] at h
          cases h
        | ok id =>
          rw [hsegment] at h
          cases h
          exact read_step hmethod id _
      · cases h
    · cases h
  | delete =>
    simp only [hmethod] at h
    split at h
    · rename_i segment hafter
      have hpath : r.path = deleteRoot ++ String.ofList segment := by
        rw [← String.toList_inj, Split.after?_eq_some_iff.1 hafter]
        simp
      cases hsegment : decodeSegment segment with
      | error rejection =>
        rw [hsegment] at h
        cases h
      | ok id =>
        rw [hsegment] at h
        cases h
        exact delete_step hmethod hpath (decode?_of_decodeSegment hsegment)
    · cases h

theorem handle_of_forced {status : UInt16} (h : s.forced = some status) (r : Request) :
    s.handle r = (.error ⟨status, "rejected"⟩, s) := by
  unfold handle
  rw [h]

/-- **Whatever is requested, one of the rules says what comes of it.** -/
theorem handle_step (s : Store) (r : Request) : s.Step r (s.handle r) := by
  cases hforced : s.forced with
  | some status =>
    rw [handle_of_forced hforced]
    exact .rejected _
  | none =>
    cases haction : Action.ofRequest r with
    | error rejection =>
      have hrejected : s.handle r = (.error rejection, s) := by
        simp only [handle, hforced, haction]
      rw [hrejected]
      exact .rejected rejection
    | ok action =>
      rw [handle_of_action hforced haction]
      exact perform_step haction

/-! ### One request after the other -/

def handleAll (s : Store) : List Request → List (Except Rejection Json) × Store
  | [] => ([], s)
  | r :: requests =>
    let (answer, s) := s.handle r
    let (answers, s) := s.handleAll requests
    (answer :: answers, s)

/-- What every request keeps, all traffic keeps. -/
theorem handleAll_keeps {P : Store → Prop} (hstep : ∀ s r, P s → P (s.handle r).2) (hs : P s)
    (requests : List Request) : P (s.handleAll requests).2 := by
  induction requests generalizing s with
  | nil => exact hs
  | cons r requests ih => exact ih (hstep s r hs)

theorem policy_handle (s : Store) (r : Request) : (s.handle r).2.policy = s.policy := by
  have hstep := handle_step s r
  generalize s.handle r = result at hstep
  cases hstep <;> rfl

theorem forced_handle (s : Store) (r : Request) : (s.handle r).2.forced = s.forced := by
  have hstep := handle_step s r
  generalize s.handle r = result at hstep
  cases hstep <;> rfl

theorem Filed.handle (hs : s.Filed) (r : Request) : (s.handle r).2.Filed := by
  have hstep := handle_step s r
  generalize s.handle r = result at hstep
  cases hstep with
  | filed hpost hkind htype => exact hs.addBody _ _
  | _ => exact hs.of_bodies_eq rfl

end Store
end Ledger
end DidLedger
