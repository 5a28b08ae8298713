/-
  DidLedger/Ledger/Store.lean
  ===========================
  **A ledger that answers from memory.**

  The store keeps one record for each nym and, for every other kind of
  transaction, the bodies as they were submitted.  A request names an action;
  carrying out an action either rejects it and leaves the store as it was, or
  answers it and changes at most one nym or files one body.

  Nyms are a list in which no two records have the same DID: a nym is written by
  putting its record in front after taking away the one with its DID.  Bodies
  are filed under a key made of their type and the number of bodies filed so
  far, in place of one that has this key already.
-/
import DidLedger.Did
import DidLedger.Ledger.Transaction
import DidLedger.Text.Split
import DidLedger.Transport

namespace DidLedger.Ledger

open DidLedger DidLedger.Text

/-! ### Contents -/

/-- A nym as it is stored. -/
structure Nym where
  /-- The DID under which it is stored. -/
  did : String
  verkey : String
  /-- Its role, whatever was submitted in its place. -/
  role : Json

def Nym.toJson (n : Nym) : Json :=
  .object [("did", .string n.did), ("role", n.role), ("verkey", .string n.verkey)]

/-- What the ledger does with a nym that it already has. -/
inductive DuplicatePolicy where
  | reject
  | accept
deriving DecidableEq, Repr

/-- An answer that is not one of success. -/
structure Rejection where
  status : UInt16
  body : String
deriving DecidableEq, Repr

/-- The contents and the settings of a ledger. -/
structure Store where
  /-- The nyms, no two with the same DID. -/
  nyms : List Nym
  /-- The bodies of the other transactions under their keys, no two with the
      same key, in the order of their submission. -/
  bodies : List (String × Json)
  /-- What happens to a nym that is submitted twice. -/
  policy : DuplicatePolicy
  /-- The status of every answer, if the ledger rejects everything. -/
  forced : Option UInt16

namespace Store

def empty (policy : DuplicatePolicy) : Store :=
  ⟨[], [], policy, none⟩

/-- An empty ledger that rejects everything. -/
def rejecting (status : UInt16) : Store :=
  ⟨[], [], .reject, some status⟩

def nym? (s : Store) (did : String) : Option Nym :=
  s.nyms.find? fun n => n.did == did

/-- The store without the nym of a DID. -/
def removeNym (s : Store) (did : String) : Store :=
  { s with nyms := s.nyms.filter fun n => n.did != did }

/-- The store with the nym in place of the one of the same DID. -/
def putNym (s : Store) (n : Nym) : Store :=
  { s with nyms := n :: (s.removeNym n.did).nyms }

/-- The key under which a body of the given type is filed next. -/
def nextKey (s : Store) (kind : String) : String :=
  s!"{kind}:{s.bodies.length}"

/-- The store with a body filed under the next key of its type. -/
def addBody (s : Store) (kind : String) (body : Json) : Store :=
  { s with bodies := s.bodies.filter (fun b => b.1 != s.nextKey kind) ++ [(s.nextKey kind, body)] }

/-- Whether a body is a transaction of the given type. -/
def isOfType (kind : String) (body : Json) : Bool :=
  (body.member "type").text? == some kind

/-- The stored bodies of a type, nyms apart. -/
def objects (s : Store) (kind : String) : List Json :=
  (s.bodies.map Prod.snd).filter (isOfType kind)

end Store

/-! ### Actions -/

/-- What a request asks the ledger to do. -/
inductive Action where
  | create (body : Json)
  | update (body : Json)
  | read (id kind : String)
  | delete (id : String)

def accepted : Json := .object [("status", .string "ok")]

def acceptedNym (did : String) : Json :=
  .object [("did", .string did), ("status", .string "ok")]

/-- The rejection of a request for a nym that is not stored. -/
def unknownNym (id : String) : Rejection :=
  ⟨404, s!"nym {id} not found"⟩

namespace Store

abbrev Result := Except Rejection Json × Store

def createNym (s : Store) (network : String) (operation : Json) : Result :=
  match (operation.member "dest").text?, (operation.member "verkey").text? with
  | some dest, some verkey =>
    let did := (Did.mk network dest).display
    if s.policy = .reject ∧ (s.nym? did).isSome then
      (.error ⟨409, s!"nym {did} already exists"⟩, s)
    else (.ok (acceptedNym did), s.putNym ⟨did, verkey, operation.member "role"⟩)
  | _, _ => (.error ⟨400, "missing dest or verkey"⟩, s)

def create (s : Store) (body : Json) : Result :=
  match (body.member "type").text?, (body.member "network").text? with
  | none, _ => (.error ⟨400, "missing transaction type"⟩, s)
  | some _, none => (.error ⟨400, "missing network"⟩, s)
  | some kind, some network =>
    if kind = Kind.nym.name then
      s.createNym network ((body.member "transaction").member "operation")
    else (.ok accepted, s.addBody kind body)

/-- A nym after an update: a key counts unless it is the one that stands for no
    change, and a role counts if it is a text. -/
def revise (n : Nym) (operation : Json) : Nym where
  did := n.did
  verkey :=
    match (operation.member "verkey").text? with
    | some verkey => if verkey = unchangedVerkey then n.verkey else verkey
    | none => n.verkey
  role :=
    match (operation.member "role").text? with
    | some role => .string role
    | none => n.role

def update (s : Store) (body : Json) : Result :=
  match (body.member "id").text? with
  | none => (.error ⟨400, "missing id"⟩, s)
  | some id =>
    match s.nym? id with
    | none => (.error (unknownNym id), s)
    | some n =>
      (.ok accepted, s.putNym (revise n ((body.member "transaction").member "operation")))

/-- Shows an object; only nyms can be read. -/
def read (s : Store) (id kind : String) : Result :=
  if kind = Kind.nym.name then
    match s.nym? id with
    | some n => (.ok (.object [("result", n.toJson)]), s)
    | none => (.error (unknownNym id), s)
  else (.error ⟨404, s!"{kind} {id} not found"⟩, s)

def delete (s : Store) (id : String) : Result :=
  match s.nym? id with
  | some _ => (.ok accepted, s.removeNym id)
  | none => (.error (unknownNym id), s)

def perform (s : Store) : Action → Result
  | .create body => s.create body
  | .update body => s.update body
  | .read id kind => s.read id kind
  | .delete id => s.delete id

end Store

/-! ### Requests -/

/-- The text that a path segment stands for. -/
def decodeSegment (segment : List Char) : Except Rejection String :=
  match Percent.decode? (String.ofList segment) with
  | .ok s => .ok s
  | .error fault => .error ⟨400, s!"invalid path segment: {fault.message}"⟩

/-- The rejection of a request that names no action. -/
def noRoute (target : String) : Rejection :=
  ⟨404, s!"no route for {target}"⟩

/-- The action that a request names by its method and path. -/
def Action.ofRequest (r : Request) : Except Rejection Action :=
  let unknown : Except Rejection Action := .error (noRoute s!"{r.method.name} {r.path}")
  match r.method with
  | .post =>
    if r.path = createPath then .ok (.create (r.body.getD .null))
    else if r.path = updatePath then .ok (.update (r.body.getD .null))
    else unknown
  | .get =>
    match Split.after? readRoot.toList r.path.toList with
    | some rest =>
      match Split.atFirst? (· == '/') rest with
      | some (id, kind) => (decodeSegment id).map fun id => .read id (String.ofList kind)
      | none => .error (noRoute r.path)
    | none => unknown
  | .delete =>
    match Split.after? deleteRoot.toList r.path.toList with
    | some rest => (decodeSegment rest).map .delete
    | none => unknown

namespace Store

def handle (s : Store) (r : Request) : Result :=
  match s.forced with
  | some status => (.error ⟨status, "rejected"⟩, s)
  | none =>
    match Action.ofRequest r with
    | .ok action => s.perform action
    | .error rejection => (.error rejection, s)

/-- The ledger as a transport: all networks share it. -/
def transport : Transport Store :=
  fun _ request s =>
    match s.handle request with
    | (.ok answer, s) => (.ok answer, s)
    | (.error rejection, s) => (.error (.rejected rejection.status rejection.body), s)

end Store
end DidLedger.Ledger
