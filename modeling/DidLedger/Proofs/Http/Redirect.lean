/-
  DidLedger/Proofs/Http/Redirect.lean
  ===================================
  **What goes over the wire when a client lets itself be sent on.**

  The messages that a client sends are those of its `trail`: the message that it was
  handed, and after each delivery that sends it on the message that this calls for.
  A wire that keeps a list of what passes through it shows the trail and nothing else
  (`hops_recorded`).  A delivery that sends the client nowhere ends it at once.
-/
import DidLedger.Http.Redirect

namespace DidLedger.Http

variable {σ : Type} {client : Client} {wire : Exchange σ}

/-! ### Being sent on -/

/-- **A client is sent on by a status that says so and a place that it understands.** -/
theorem next?_eq_some_iff {message next : Message} {delivery : Delivery} :
    client.next? message delivery = some next ↔
      ∃ head turn place url, delivery.head? = some head ∧ turnOf? head.status = some turn ∧
        head.location = some place ∧ client.join message.url place = some url ∧
        (turn.apply message).moveTo url = next := by
  simp only [Client.next?, Option.bind_eq_bind, Option.bind_eq_some_iff, Option.pure_def,
    Option.some.injEq]
  constructor
  · rintro ⟨head, hhead, turn, hturn, place, hplace, url, hurl, hnext⟩
    exact ⟨head, turn, place, url, hhead, hturn, hplace, hurl, hnext⟩
  · rintro ⟨head, turn, place, url, hhead, hturn, hplace, hurl, hnext⟩
    exact ⟨head, hhead, turn, hturn, place, hplace, url, hurl, hnext⟩

/-- A response that refers to no place sends nobody on. -/
theorem next?_eq_none {message : Message} {delivery : Delivery}
    (h : ∀ head, delivery.head? = some head → head.location = none) :
    client.next? message delivery = none := by
  rw [Option.eq_none_iff_forall_ne_some]
  intro next hnext
  obtain ⟨head, turn, place, url, hhead, -, hplace, -⟩ := next?_eq_some_iff.1 hnext
  rw [h head hhead] at hplace
  cases hplace

/-! ### The trail of a message -/

/-- Keeps a list of the messages and of what was delivered for each. -/
def Exchange.recorded (exchange : Exchange σ) : Exchange (σ × List (Message × Delivery)) :=
  fun message (s, sent) =>
    let (delivery, s) := exchange message s
    (delivery, s, sent ++ [(message, delivery)])

/-- The messages that a client sends, of which there may be so many after the first one, and
    what is delivered for each. -/
def Exchange.trail (client : Client) (wire : Exchange σ) :
    Nat → Message → σ → List (Message × Delivery)
  | 0, message, s => [(message, (wire message s).1)]
  | left + 1, message, s =>
    let (delivery, s) := wire message s
    (message, delivery) ::
      match client.next? message delivery with
      | none => []
      | some next => Exchange.trail client wire left next s

/-- **The wire carries the trail and nothing else**, and keeping a list of it changes
    nothing. -/
theorem hops_recorded (client : Client) (wire : Exchange σ) (left : Nat) (message : Message)
    (s : σ) (sent : List (Message × Delivery)) :
    Exchange.hops client wire.recorded left message (s, sent) =
      ((Exchange.hops client wire left message s).1, (Exchange.hops client wire left message s).2,
        sent ++ Exchange.trail client wire left message s) := by
  induction left generalizing message s sent with
  | zero =>
    simp only [Exchange.hops, Exchange.trail, Exchange.recorded]
    cases client.next? message (wire message s).1 with
    | none => rfl
    | some next => rfl
  | succ left ih =>
    simp only [Exchange.hops, Exchange.trail, Exchange.recorded]
    cases client.next? message (wire message s).1 with
    | none => rfl
    | some next =>
      have hrest := ih next (wire message s).2 (sent ++ [(message, (wire message s).1)])
      rw [List.append_assoc, List.singleton_append] at hrest
      exact hrest

/-- The first message of a trail is the one that the client was handed. -/
theorem head?_trail (client : Client) (wire : Exchange σ) (left : Nat) (message : Message)
    (s : σ) : (Exchange.trail client wire left message s).head? =
      some (message, (wire message s).1) := by
  cases left <;> rfl

/-- **Where it is not sent on, a client sends what it was handed and takes what comes.** -/
theorem hops_of_final (wire : Exchange σ) {message : Message} {s : σ}
    (h : client.next? message (wire message s).1 = none) (left : Nat) :
    Exchange.hops client wire left message s = wire message s ∧
      Exchange.trail client wire left message s = [(message, (wire message s).1)] := by
  cases left with
  | zero => simp only [Exchange.hops, Exchange.trail, h, and_self]
  | succ left => simp only [Exchange.hops, Exchange.trail, h, and_self]

/-- Where it is sent on, a client goes on with the next message. -/
theorem hops_of_next (wire : Exchange σ) {message next : Message} {s : σ}
    (h : client.next? message (wire message s).1 = some next) (left : Nat) :
    Exchange.hops client wire (left + 1) message s =
        Exchange.hops client wire left next (wire message s).2 ∧
      Exchange.trail client wire (left + 1) message s =
        (message, (wire message s).1) ::
          Exchange.trail client wire left next (wire message s).2 := by
  simp only [Exchange.hops, Exchange.trail, h, and_self]

/-- **A client gives up in the end.** -/
theorem length_trail_le (client : Client) (wire : Exchange σ) (left : Nat) (message : Message)
    (s : σ) : (Exchange.trail client wire left message s).length ≤ left + 1 := by
  induction left generalizing message s with
  | zero => exact Nat.le_refl 1
  | succ left ih =>
    simp only [Exchange.trail, List.length_cons]
    cases client.next? message (wire message s).1 with
    | none => exact Nat.le_add_left 1 _
    | some next => exact Nat.succ_le_succ (ih next _)

/-- An exchange that sends nobody on is left as it is. -/
theorem following_eq_self
    (h : ∀ message s, client.next? message (wire message s).1 = none) :
    wire.following client = wire := by
  funext message s
  exact (hops_of_final wire (h message s) _).1

end DidLedger.Http
