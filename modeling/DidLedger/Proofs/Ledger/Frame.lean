/-
  DidLedger/Proofs/Ledger/Frame.lean
  ==================================
  **A request changes at most the one entry that it is about.**

  What a request is about can be read off its method, its path and its body
  (`Concerns`), without a look at the ledger.  A rejected request leaves the
  ledger as it was, and an accepted one leaves everything as it was that it is not
  about (`handle_frame`): all other nyms, all bodies, or, when a body is filed,
  all nyms and the bodies that were filed before.

  For the last the keys of the bodies matter.  In a store put together at will a
  new body could come to lie on an old one; in a ledger that was empty at first
  it never does.
-/
import DidLedger.Proofs.Ledger.Steps

namespace DidLedger.Ledger

open DidLedger.Text

/-- The part of a ledger that a request is about. -/
inductive Part where
  | nothing
  | nym (did : String)
  | filing (body : Json)

/-- What a request is about. -/
inductive Concerns (r : Request) : Part → Prop
  | read (hmethod : r.method = .get) : Concerns r .nothing
  | createNym {body : Json} {network dest : String} (hpost : r.Posts createPath body)
      (hnym : AsksForNym body network dest) :
      Concerns r (.nym ("did:" ++ network ++ ":" ++ dest))
  | createBody {body : Json} {kind : String} (hpost : r.Posts createPath body)
      (htype : body.member "type" = .string kind) (hkind : kind ≠ "nym") :
      Concerns r (.filing body)
  | update {body : Json} {id : String} (hpost : r.Posts updatePath body)
      (hid : body.member "id" = .string id) : Concerns r (.nym id)
  | delete {segment id : String} (hmethod : r.method = .delete)
      (hpath : r.path = deleteRoot ++ segment) (hdecode : Percent.decode? segment = .ok id) :
      Concerns r (.nym id)

namespace Store

variable {s : Store}

/-- Two stores differ at most in a part. -/
def AgreeOutside (s s' : Store) : Part → Prop
  | .nothing => s' = s
  | .nym did => (∀ other, other ≠ did → s'.nym? other = s.nym? other) ∧ s'.bodies = s.bodies
  | .filing body => s'.nyms = s.nyms ∧ ∃ key,
      s'.bodies = s.bodies.filter (fun b => b.1 != key) ++ [(key, body)] ∧
        (s.Filed → s'.bodies = s.bodies ++ [(key, body)])

theorem agreeOutside_putNym (s : Store) (n : Nym) : s.AgreeOutside (s.putNym n) (.nym n.did) := by
  refine ⟨?_, rfl⟩
  intro other hother
  rw [nym?_putNym, if_neg hother]

theorem agreeOutside_removeNym (s : Store) (did : String) :
    s.AgreeOutside (s.removeNym did) (.nym did) := by
  refine ⟨?_, rfl⟩
  intro other hother
  rw [nym?_removeNym, if_neg hother]

theorem agreeOutside_addBody (s : Store) (kind : String) (body : Json) :
    s.AgreeOutside (s.addBody kind body) (.filing body) :=
  ⟨rfl, s.nextKey kind, rfl, fun hs => hs.bodies_addBody kind body⟩

theorem handleAll_of_forced {status : UInt16} (h : s.forced = some status)
    (requests : List Request) :
    s.handleAll requests = (requests.map fun _ => .error ⟨status, "rejected"⟩, s) := by
  induction requests with
  | nil => rfl
  | cons r requests ih => simp only [handleAll, handle_of_forced h, ih, List.map_cons]

/-- **A rejected request changes nothing, and an accepted one changes nothing but
    what it is about.**  A ledger with a forced status rejects everything, and
    stays as it is. -/
theorem handle_frame (s : Store) (r : Request) :
    (∀ rejection, (s.handle r).1 = .error rejection → (s.handle r).2 = s) ∧
      (∀ answer, (s.handle r).1 = .ok answer →
        ∃ part, Concerns r part ∧ s.AgreeOutside (s.handle r).2 part) ∧
      (∀ status, s.forced = some status → ∀ requests,
        s.handleAll requests = (requests.map fun _ => .error ⟨status, "rejected"⟩, s)) ∧
      ∀ policy forced requests, (handleAll ⟨[], [], policy, forced⟩ requests).2.Filed := by
  refine ⟨?_, ?_, fun status h => handleAll_of_forced h, ?_⟩
  · intro rejection hrejected
    have hstep := handle_step s r
    generalize s.handle r = result at hstep hrejected
    cases hstep with
    | rejected _ => rfl
    | _ => cases hrejected
  · intro answer hanswer
    have hstep := handle_step s r
    generalize s.handle r = result at hstep hanswer
    cases hstep with
    | rejected _ => cases hanswer
    | created hpost hnym hverkey hnew => exact ⟨_, .createNym hpost hnym, agreeOutside_putNym s _⟩
    | filed hpost hkind htype =>
      exact ⟨_, .createBody hpost htype hkind, agreeOutside_addBody s _ _⟩
    | @revised body id n hpost hid hstored =>
      have hdid : n.did = id := did_of_nym? hstored
      subst hdid
      exact ⟨_, .update hpost hid, agreeOutside_putNym s _⟩
    | shown hmethod hstored => exact ⟨_, .read hmethod, rfl⟩
    | deleted hmethod hpath hdecode =>
      exact ⟨_, .delete hmethod hpath hdecode, agreeOutside_removeNym s _⟩
  · intro policy forced requests
    exact handleAll_keeps (fun s r hs => hs.handle r) (Filed.of_bodies_eq_nil rfl) requests

end Store
end DidLedger.Ledger
