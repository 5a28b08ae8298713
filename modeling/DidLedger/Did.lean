/-
  DidLedger/Did.lean
  ==================
  **Decentralized identifiers of ledger networks.**

  An identifier has the form `did:<network>:<id>`.  The network is everything up
  to the second colon and so holds none; what follows is for the network to
  interpret and is taken as it is, except that it may not hold a line feed.
-/
import DidLedger.Error
import DidLedger.Text.Split

namespace DidLedger

open DidLedger.Text

structure Did where
  network : String
  id : String
deriving DecidableEq, Repr

namespace Did

def display (d : Did) : String :=
  "did:" ++ d.network ++ ":" ++ d.id

/-- The part of a text after its last colon, or all of it. -/
def afterLastColon (s : String) : String :=
  String.ofList (s.toList.reverse.takeWhile (· ≠ ':')).reverse

/-- The last segment of the identifier, under which a nym is updated. -/
def suffix (d : Did) : String :=
  afterLastColon d.id

def parse? (s : String) : Option Did := do
  let rest ← Split.after? "did:".toList s.toList
  let (network, id) ← Split.atFirst? (· == ':') rest
  if network.isEmpty || id.isEmpty || id.contains '\n' then none
  else some ⟨String.ofList network, String.ofList id⟩

/-- Reads a DID, or says what is wrong with it. -/
def parse (s : String) : Except Error Did :=
  match parse? s with
  | some d => .ok d
  | none => .error (.invalidDid s!"'{s}' is not of the form did:<network>:<id>")

end Did
end DidLedger
