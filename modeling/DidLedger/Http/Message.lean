/-
  DidLedger/Http/Message.lean
  ===========================
  **What goes over the wire, and what comes back.**

  An exchange takes a request and delivers what became of it.  A response has a
  head, which comes first, and a body of octets, which may end before its time.
-/
import DidLedger.Transport
import DidLedger.Url.Basic

namespace DidLedger.Http

open DidLedger

/-- A request as it is sent. -/
structure Message where
  method : Method
  url : Url
  accept : String
  /-- The values of the authorization header, in order. -/
  authorization : List String
  contentType : Option String
  body : Option String

/-- What is known of a response before its body. -/
structure Head where
  status : UInt16
  /-- The character set of the body, if the content type names one. -/
  charset : Option String
  /-- The place that the response refers to, if there is one. -/
  location : Option String
deriving DecidableEq, Repr

/-- The head of a response that says nothing but its status. -/
def Head.plain (status : UInt16) : Head := ⟨status, none, none⟩

inductive Delivery where
  /-- No response came, for the given reason: the message could not be sent, the other
      side was not reached, closed the connection or did not answer in time. -/
  | failed (reason : String)
  /-- A response began, but its body ended before its time. -/
  | cutShort (head : Head)
  | complete (head : Head) (body : List UInt8)
deriving DecidableEq, Repr

/-- The head of the response, if one began. -/
def Delivery.head? : Delivery → Option Head
  | .failed _ => none
  | .cutShort head => some head
  | .complete head _ => some head

/-- Delivers a request to the other side, which may change its state. -/
abbrev Exchange (σ : Type) := Message → σ → Delivery × σ

/-- What is said of a message to which no response came. -/
def unsent : String := "error sending request"

/-- The exchange with a side that cannot be reached. -/
def unreachable {σ : Type} : Exchange σ :=
  fun _ s => (.failed unsent, s)

def isSuccess (status : UInt16) : Bool :=
  decide (200 ≤ status.toNat ∧ status.toNat < 300)

end DidLedger.Http
