/-
  DidLedger/Transport.lean
  ========================
  **How a request reaches a ledger.**

  A transport answers one request to one network and may change a state while it
  does so; what the state is depends on the transport.  An answer is a JSON
  value, or the failure that took its place.  Nothing here retries.

  `scripted` answers from a list, whatever it is asked; `recording` keeps a list
  of the requests that pass through it and changes nothing else.
-/
import DidLedger.Network

namespace DidLedger

/-- The methods of the transaction API. -/
inductive Method where
  | get
  | post
  | delete
deriving DecidableEq, Repr

def Method.name : Method → String
  | .get => "GET"
  | .post => "POST"
  | .delete => "DELETE"

/-- A request, relative to the base URL of a network. -/
structure Request where
  method : Method
  path : String
  body : Option Json

abbrev Answer := Except Error Json

/-- Answers a request to a network, and gives the state after it. -/
abbrev Transport (σ : Type) := Network → Request → σ → Answer × σ

/-- A request that was made, with the name of the network. -/
structure Call where
  network : String
  request : Request

namespace Transport

/-- The `n`-th request gets the `n`-th answer, starting over at the end of the
    list; an empty list answers `null`. -/
def scripted (answers : List Answer) : Transport Nat :=
  fun _ _ n => (answers.getD (n % answers.length) (.ok .null), n + 1)

/-- Adds each request to a list before it is answered. -/
def recording {σ : Type} (transport : Transport σ) : Transport (σ × List Call) :=
  fun network request (s, calls) =>
    let (answer, s) := transport network request s
    (answer, s, calls ++ [⟨network.name, request⟩])

end Transport
end DidLedger
