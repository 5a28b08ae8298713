/-
  DidLedger/Http/Redirect.lean
  ============================
  **Clients that let themselves be sent on.**

  A response may say that what is asked for is at another place.  A client then
  asks there, with the same message after the statuses 307 and 308, and with a bare
  GET after 301, 302 and 303.  Authorization stays behind when the host or the port
  changes.  After so many places the client gives up.

  A place that cannot be understood is none, and the response is taken as it is.
  Whether a client is sent on is known from the head of a response: its body is not
  read then.
-/
import DidLedger.Http.Client

namespace DidLedger.Http

open DidLedger

/-- What a response makes of a message that it sends on. -/
inductive Turn where
  /-- The message is sent as it is. -/
  | again
  /-- Only its place is asked for. -/
  | look
deriving DecidableEq, Repr

def turnOf? (status : UInt16) : Option Turn :=
  if status = 301 ∨ status = 302 ∨ status = 303 then some .look
  else if status = 307 ∨ status = 308 then some .again
  else none

def Turn.apply : Turn → Message → Message
  | .again, message => message
  | .look, message => { message with method := .get, contentType := none, body := none }

/-- The port of a URL, which is the one of the scheme if it names none. -/
def portOf (url : Url) : Option Nat :=
  match url.port, Url.classOf url.scheme with
  | some port, _ => some port
  | none, .web port => some port
  | none, _ => none

/-- Takes a message to another place. -/
def Message.moveTo (message : Message) (url : Url) : Message :=
  { message with
    url := url
    authorization :=
      if url.host = message.url.host ∧ portOf url = portOf message.url then message.authorization
      else [] }

/-- The message that a client sends after a delivery, if it is sent on. -/
def Client.next? (client : Client) (message : Message) (delivery : Delivery) : Option Message := do
  let head ← delivery.head?
  let turn ← turnOf? head.status
  let url ← client.join message.url (← head.location)
  return (turn.apply message).moveTo url

/-- Exchanges a message, and those that the client is sent on with, of which there may be as
    many more as the number says. -/
def Exchange.hops {σ : Type} (client : Client) (wire : Exchange σ) : Nat → Exchange σ
  | 0, message, s =>
    let (delivery, s) := wire message s
    match client.next? message delivery with
    | none => (delivery, s)
    | some _ => (.failed "error following redirect", s)
  | left + 1, message, s =>
    let (delivery, s) := wire message s
    match client.next? message delivery with
    | none => (delivery, s)
    | some next => Exchange.hops client wire left next s

/-- The exchange of a client over a wire that carries one message and what comes back. -/
def Exchange.following {σ : Type} (wire : Exchange σ) (client : Client) : Exchange σ :=
  Exchange.hops client wire client.redirects

end DidLedger.Http
