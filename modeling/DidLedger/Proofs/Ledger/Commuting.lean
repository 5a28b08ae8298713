/-
  DidLedger/Proofs/Ledger/Commuting.lean
  ======================================
  **Requests about different DIDs can be handled in either order.**

  All nyms of all networks share one map, and all other objects share another in
  which keys depend on how much is there already.  But what a ledger does with a
  request depends on the nym of one DID only, its subject, and changes no other
  (`handle_congr`, `nym?_handle_of_ne`); and what a request files depends on nothing
  (`exists_added`).  So two requests about different DIDs are answered the same in
  either order and leave the same behind (`handle_comm`), up to the order of the
  filed bodies.
-/
import DidLedger.Proofs.Ledger.Objects

namespace DidLedger

open DidLedger.Ledger DidLedger.Credential DidLedger.Text

namespace Ledger

/-! ### Subjects -/

/-- The DID of the nym that a body asks for. -/
def nymIn? (body : Json) : Option String :=
  match (body.member "type").text?, (body.member "network").text?,
    ((operationIn body).member "dest").text? with
  | some kind, some network, some dest =>
    if kind = Kind.nym.name then some (Did.mk network dest).display else none
  | _, _, _ => none

/-- The DID that an action is about. -/
def Action.subject? : Action → Option String
  | .create body => nymIn? body
  | .update body => (body.member "id").text?
  | .read id _ => some id
  | .delete id => some id

/-- The DID that a request is about. -/
def subjectOf? (r : Request) : Option String :=
  match Action.ofRequest r with
  | .ok action => action.subject?
  | .error _ => none

namespace Store

variable {s t : Store} {r r' : Request}

/-- The nym that is stored under a DID, if there is a DID to look under. -/
def under? (s : Store) (subject : Option String) : Option Nym :=
  subject.bind s.nym?

theorem under?_some (s : Store) (did : String) : s.under? (some did) = s.nym? did := rfl

/-! ### The subject decides -/

theorem create_congr (hpolicy : s.policy = t.policy) {body : Json}
    (h : s.under? (nymIn? body) = t.under? (nymIn? body)) :
    (s.create body).1 = (t.create body).1 ∧
      (s.create body).2.under? (nymIn? body) = (t.create body).2.under? (nymIn? body) := by
  unfold create
  cases htype : (body.member "type").text? with
  | none => exact ⟨rfl, h⟩
  | some kind =>
    cases hnetwork : (body.member "network").text? with
    | none => exact ⟨rfl, h⟩
    | some network =>
      by_cases hkind : kind = Kind.nym.name
      · simp only [if_pos hkind, createNym]
        rw [← operationIn]
        cases hdest : ((operationIn body).member "dest").text? with
        | none => exact ⟨rfl, h⟩
        | some dest =>
          cases (Json.member "verkey" (operationIn body)).text? with
          | none => exact ⟨rfl, h⟩
          | some verkey =>
            have hsubject : nymIn? body = some (Did.mk network dest).display := by
              simp only [nymIn?, htype, hnetwork, hdest, if_pos hkind]
            rw [hsubject, under?_some, under?_some] at h
            simp only [hpolicy, h, hsubject]
            split
            · exact ⟨rfl, h⟩
            · simp only [under?_some, nym?_putNym, if_true, and_self]
      · simp only [if_neg hkind]
        exact ⟨trivial, h⟩

theorem update_congr {body : Json}
    (h : s.under? (body.member "id").text? = t.under? (body.member "id").text?) :
    (s.update body).1 = (t.update body).1 ∧
      (s.update body).2.under? (body.member "id").text? =
        (t.update body).2.under? (body.member "id").text? := by
  unfold update
  cases hid : (body.member "id").text? with
  | none => exact ⟨rfl, rfl⟩
  | some id =>
    rw [hid, under?_some, under?_some] at h
    simp only [h]
    cases hstored : t.nym? id with
    | none => exact ⟨rfl, h⟩
    | some n =>
      have hdid : id = (revise n ((body.member "transaction").member "operation")).did :=
        (did_of_nym? hstored).symm
      simp only [under?_some, nym?_putNym, if_pos hdid, and_self]

theorem read_congr {id : String} (h : s.nym? id = t.nym? id) (kind : String) :
    (s.read id kind).1 = (t.read id kind).1 ∧
      (s.read id kind).2.nym? id = (t.read id kind).2.nym? id := by
  unfold read
  split
  · simp only [h]
    cases t.nym? id with
    | none => exact ⟨rfl, h⟩
    | some n => exact ⟨rfl, h⟩
  · exact ⟨rfl, h⟩

theorem delete_congr {id : String} (h : s.nym? id = t.nym? id) :
    (s.delete id).1 = (t.delete id).1 ∧ (s.delete id).2.nym? id = (t.delete id).2.nym? id := by
  unfold delete
  simp only [h]
  cases t.nym? id with
  | none => exact ⟨rfl, h⟩
  | some n => simp only [nym?_removeNym, if_true, and_self]

/-- **What comes of a request depends on the nym of its subject only**: the answer
    does, and what is then stored under the subject. -/
theorem handle_congr (hpolicy : s.policy = t.policy) (hforced : s.forced = t.forced)
    (h : s.under? (subjectOf? r) = t.under? (subjectOf? r)) :
    (s.handle r).1 = (t.handle r).1 ∧
      (s.handle r).2.under? (subjectOf? r) = (t.handle r).2.under? (subjectOf? r) := by
  unfold handle subjectOf? at *
  rw [hforced]
  cases t.forced with
  | some status => exact ⟨rfl, h⟩
  | none =>
    cases haction : Action.ofRequest r with
    | error rejection => exact ⟨rfl, rfl⟩
    | ok action =>
      rw [haction] at h
      cases action with
      | create body => exact create_congr hpolicy h
      | update body => exact update_congr h
      | read id kind => exact read_congr h kind
      | delete id => exact delete_congr h

/-! ### All else stays -/

theorem ofRequest_of_create {body : Json} (hpost : r.Posts createPath body) :
    Action.ofRequest r = .ok (.create body) := by
  simp only [Action.ofRequest, hpost.method_eq, hpost.path_eq, hpost.body_eq, if_true,
    Option.getD_some]

theorem ofRequest_of_update {body : Json} (hpost : r.Posts updatePath body) :
    Action.ofRequest r = .ok (.update body) := by
  have hpath : updatePath ≠ createPath := by decide
  simp only [Action.ofRequest, hpost.method_eq, hpost.path_eq, hpost.body_eq, if_neg hpath,
    if_true, Option.getD_some]

theorem ofRequest_of_delete {segment id : String} (hmethod : r.method = .delete)
    (hpath : r.path = deleteRoot ++ segment) (hdecode : Percent.decode? segment = .ok id) :
    Action.ofRequest r = .ok (.delete id) := by
  have hrest : Split.after? deleteRoot.toList r.path.toList = some segment.toList := by
    rw [Split.after?_eq_some_iff, hpath, String.toList_append]
  simp only [Action.ofRequest, hmethod, hrest, decodeSegment, String.ofList_toList, hdecode,
    Except.map]

theorem subjectOf?_of_action {action : Action} (h : Action.ofRequest r = .ok action) :
    subjectOf? r = action.subject? := by
  rw [subjectOf?, h]

theorem nymIn?_of_asksForNym {body : Json} {network dest : String}
    (h : AsksForNym body network dest) : nymIn? body = some (Did.mk network dest).display := by
  simp only [nymIn?, h.type_eq, h.network_eq, h.dest_eq, Json.text?, if_true]

theorem nymIn?_of_type_ne {body : Json} {kind : String}
    (htype : body.member "type" = .string kind) (hkind : kind ≠ Kind.nym.name) :
    nymIn? body = none := by
  unfold nymIn?
  split
  · rename_i other network dest hother _ _
    rw [Json.text?_eq_some_iff, htype, Json.string.injEq] at hother
    rw [← hother, if_neg hkind]
  · rfl

/-- **A request changes no nym but the one of its subject.** -/
theorem nym?_handle_of_ne {did : String} (h : subjectOf? r ≠ some did) :
    (s.handle r).2.nym? did = s.nym? did := by
  have hstep := handle_step s r
  generalize s.handle r = result at hstep
  cases hstep with
  | created hpost hnym hverkey hnew =>
    rw [subjectOf?_of_action (ofRequest_of_create hpost)] at h
    rw [nym?_putNym, if_neg]
    rintro rfl
    exact h (nymIn?_of_asksForNym hnym)
  | @revised body id n hpost hid hstored =>
    rw [subjectOf?_of_action (ofRequest_of_update hpost), Action.subject?, hid] at h
    rw [nym?_putNym, if_neg]
    rintro rfl
    exact h (congrArg some (did_of_nym? hstored).symm)
  | deleted hmethod hpath hdecode =>
    rw [subjectOf?_of_action (ofRequest_of_delete hmethod hpath hdecode)] at h
    rw [nym?_removeNym, if_neg]
    rintro rfl
    exact h rfl
  | _ => rfl

theorem under?_handle_of_apart {subject : Option String}
    (h : ∀ did, subject = some did → subjectOf? r ≠ some did) :
    (s.handle r).2.under? subject = s.under? subject := by
  cases subject with
  | none => rfl
  | some did => exact nym?_handle_of_ne (h did rfl)

/-! ### What is filed -/

def values (s : Store) : List Json :=
  s.bodies.map Prod.snd

theorem bodies_createNym (s : Store) (network : String) (operation : Json) :
    (s.createNym network operation).2.bodies = s.bodies := by
  unfold createNym
  split
  · dsimp only
    split <;> rfl
  · rfl

theorem exists_added_create (body : Json) :
    ∃ added, ∀ s : Store, s.Filed → (s.create body).2.values = s.values ++ added := by
  unfold create
  cases (body.member "type").text? with
  | none => exact ⟨[], fun s _ => (List.append_nil _).symm⟩
  | some kind =>
    cases (body.member "network").text? with
    | none => exact ⟨[], fun s _ => (List.append_nil _).symm⟩
    | some network =>
      by_cases hkind : kind = Kind.nym.name
      · refine ⟨[], fun s _ => ?_⟩
        simp only [if_pos hkind, values, bodies_createNym, List.append_nil]
      · refine ⟨[body], fun s hs => ?_⟩
        simp only [if_neg hkind, values, hs.bodies_addBody, List.map_append]
        rfl

/-- **What a request files does not depend on what is there.** -/
theorem exists_added (forced : Option UInt16) (r : Request) :
    ∃ added, ∀ s : Store, s.forced = forced → s.Filed →
      (s.handle r).2.values = s.values ++ added := by
  by_cases hcreate : forced = none ∧ ∃ body, Action.ofRequest r = .ok (.create body)
  · rcases hcreate with ⟨rfl, body, haction⟩
    rcases exists_added_create body with ⟨added, hadded⟩
    refine ⟨added, fun s hforced hs => ?_⟩
    rw [handle_of_action hforced haction]
    exact hadded s hs
  · refine ⟨[], fun s hforced _ => ?_⟩
    cases forced with
    | some status => rw [handle_of_forced hforced, List.append_nil]
    | none =>
      have hnothing : FilesNothing r := by
        intro body kind hpost
        exact absurd ⟨rfl, body, ofRequest_of_create hpost⟩ hcreate
      rw [values, bodies_handle_of_filesNothing hnothing, List.append_nil, values]

/-! ### Two requests -/

/-- The same nyms, and of every type the same objects, each as often. -/
def SameContents (s t : Store) : Prop :=
  (∀ did, s.nym? did = t.nym? did) ∧ ∀ kind, (s.objects kind).Perm (t.objects kind)

/-- Stores that hold the same, apart from the order in which bodies were filed. -/
structure Like (s t : Store) : Prop where
  policy_eq : s.policy = t.policy
  forced_eq : s.forced = t.forced
  nym?_eq : ∀ did, s.nym? did = t.nym? did
  values_perm : s.values.Perm t.values

namespace Like

theorem refl (s : Store) : s.Like s :=
  ⟨rfl, rfl, fun _ => rfl, .refl _⟩

theorem trans {u : Store} (h : s.Like t) (h' : t.Like u) : s.Like u :=
  ⟨h.policy_eq.trans h'.policy_eq, h.forced_eq.trans h'.forced_eq,
    fun did => (h.nym?_eq did).trans (h'.nym?_eq did), h.values_perm.trans h'.values_perm⟩

theorem objects_perm (h : s.Like t) (kind : String) : (s.objects kind).Perm (t.objects kind) :=
  h.values_perm.filter _

theorem sameContents (h : s.Like t) : s.SameContents t :=
  ⟨h.nym?_eq, h.objects_perm⟩

theorem under?_eq (h : s.Like t) (subject : Option String) :
    s.under? subject = t.under? subject := by
  cases subject with
  | none => rfl
  | some did => exact h.nym?_eq did

theorem answer_eq (h : s.Like t) (r : Request) : (s.handle r).1 = (t.handle r).1 :=
  (handle_congr h.policy_eq h.forced_eq (h.under?_eq _)).1

theorem handle (h : s.Like t) (hs : s.Filed) (ht : t.Filed) (r : Request) :
    (s.handle r).2.Like (t.handle r).2 where
  policy_eq := by rw [policy_handle, policy_handle, h.policy_eq]
  forced_eq := by rw [forced_handle, forced_handle, h.forced_eq]
  nym?_eq := by
    intro did
    -- The subject decides what becomes of its nym, and no other nym changes.
    by_cases hsubject : subjectOf? r = some did
    · have hunder := (handle_congr h.policy_eq h.forced_eq (h.under?_eq (subjectOf? r))).2
      rw [hsubject] at hunder
      exact hunder
    · rw [nym?_handle_of_ne hsubject, nym?_handle_of_ne hsubject, h.nym?_eq]
  values_perm := by
    rcases exists_added t.forced r with ⟨added, hadded⟩
    rw [hadded s h.forced_eq hs, hadded t rfl ht]
    exact h.values_perm.append_right added

end Like

/-- Two requests are not about the same DID. -/
def Apart (r r' : Request) : Prop :=
  ∀ did, subjectOf? r = some did → subjectOf? r' ≠ some did

theorem Apart.symm (h : Apart r r') : Apart r' r :=
  fun did hsubject hsubject' => h did hsubject' hsubject

theorem answer_handle_of_apart (h : Apart r r') : ((s.handle r').2.handle r).1 = (s.handle r).1 :=
  (handle_congr (policy_handle s r') (forced_handle s r') (under?_handle_of_apart h)).1

theorem nym?_comm_of_subject (h : Apart r r') {did : String} (hsubject : subjectOf? r = some did) :
    ((s.handle r).2.handle r').2.nym? did = ((s.handle r').2.handle r).2.nym? did := by
  have hunder := (handle_congr (r := r) (policy_handle s r') (forced_handle s r')
    (under?_handle_of_apart h)).2
  rw [hsubject] at hunder
  rw [nym?_handle_of_ne (h did hsubject)]
  exact hunder.symm

/-- **Requests about different DIDs leave the same behind in either order.** -/
theorem handle_comm (hs : s.Filed) (h : Apart r r') :
    ((s.handle r).2.handle r').2.Like ((s.handle r').2.handle r).2 where
  policy_eq := by simp only [policy_handle]
  forced_eq := by simp only [forced_handle]
  nym?_eq := by
    intro did
    by_cases hr : subjectOf? r = some did
    · exact nym?_comm_of_subject h hr
    · by_cases hr' : subjectOf? r' = some did
      · exact (nym?_comm_of_subject h.symm hr').symm
      · rw [nym?_handle_of_ne hr', nym?_handle_of_ne hr, nym?_handle_of_ne hr,
          nym?_handle_of_ne hr']
  values_perm := by
    -- Either order adds the same bodies, one behind the other.
    rcases exists_added s.forced r with ⟨added, hadded⟩
    rcases exists_added s.forced r' with ⟨added', hadded'⟩
    rw [hadded' _ (forced_handle s r) (hs.handle r), hadded s rfl hs,
      hadded _ (forced_handle s r') (hs.handle r'), hadded' s rfl hs, List.append_assoc,
      List.append_assoc]
    exact List.perm_append_comm.append_left s.values

end Store
end Ledger
end DidLedger
