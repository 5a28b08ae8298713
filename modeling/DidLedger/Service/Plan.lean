/-
  DidLedger/Service/Plan.lean
  ===========================
  **What an operation asks of which network.**

  Before an operation talks to a ledger it has to be able to say what it will
  ask.  A plan is that one request with the network it goes to and, for a write,
  what the caller gets once the ledger has accepted it; or it is the failure
  that keeps the operation from asking anything.  A plan looks at its input and
  at the configured networks only, so whether an operation sends a request does
  not depend on any ledger.
-/
import DidLedger.Credential.Definition
import DidLedger.Credential.Schema
import DidLedger.Did
import DidLedger.Service.Outcome
import DidLedger.Transport

namespace DidLedger

open DidLedger.Ledger DidLedger.Credential

/-! ### Errands -/

/-- A request and the network it goes to. -/
structure Errand where
  network : Network
  request : Request

namespace Errand

def create (network : Network) (t : Transaction) : Errand :=
  ⟨network, ⟨.post, createPath, some t.createBody⟩⟩

def update (network : Network) (t : Transaction) (id : String) : Errand :=
  ⟨network, ⟨.post, updatePath, some (t.updateBody id)⟩⟩

def read (network : Network) (did : String) : Errand :=
  ⟨network, ⟨.get, readPath did .nym, none⟩⟩

def delete (network : Network) (did : String) : Errand :=
  ⟨network, ⟨.delete, deletePath did, none⟩⟩

end Errand

/-- A write: what is asked, and what the caller gets if it is accepted. -/
structure Plan (α : Type) where
  errand : Errand
  result : α

/-! ### Nyms -/

/-- The DID of an identifier on a network. -/
def Network.didOf (network : Network) (id : String) : String :=
  (Did.mk network.name id).display

/-- Whether the DID of an identifier reads back with the name of the network. -/
def Network.holds (network : Network) (id : String) : Bool :=
  match Did.parse? (network.didOf id) with
  | some d => d.network == network.name
  | none => false

namespace Registry

def creation (o : CreateOptions) : NymOperation :=
  ⟨o.methodSpecificId, o.verkey, o.role.getD defaultRole⟩

/-- What is written for a change to a nym. -/
def change (did : Did) (fields : UpdateFields) : NymOperation :=
  ⟨did.suffix, fields.verkey.getD unchangedVerkey, fields.role.getD defaultRole⟩

def planCreate (registry : Registry) (o : CreateOptions) : Except Error (Plan CreatedDid) := do
  if o.methodSpecificId.isEmpty || o.verkey.isEmpty then
    throw (.invalidInput "Missing methodSpecificId or verkey")
  let network ← registry.select o.network
  let did := network.didOf o.methodSpecificId
  if network.holds o.methodSpecificId then
    return ⟨.create network (.nym network.name (creation o)),
      ⟨did, o.verkey, Document.build did o.verkey⟩⟩
  else
    throw (.invalidDid s!"network name '{network.name}' cannot appear in a DID")

/-- A DID in its parts, and its network. -/
def locate (registry : Registry) (did : String) : Except Error (Did × Network) := do
  let parsed ← Did.parse did
  let network ← registry.find parsed.network
  return (parsed, network)

def planResolve (registry : Registry) (did : String) : Except Error Errand := do
  let (_, network) ← registry.locate did
  return .read network did

def planUpdate (registry : Registry) (did : String) (fields : UpdateFields) :
    Except Error (Plan Unit) := do
  let (parsed, network) ← registry.locate did
  return ⟨.update network (.nym network.name (change parsed fields)) did, ()⟩

def planDeactivate (registry : Registry) (did : String) : Except Error (Plan Unit) := do
  let (_, network) ← registry.locate did
  return ⟨.delete network did, ()⟩

/-! ### Schemas and credential definitions -/

/-- The network of an issuer: the one its DID names if that is configured, and
    the default network otherwise. -/
def issuerNetwork (registry : Registry) (issuerId : String) : Except Error Network :=
  match registry.locate issuerId with
  | .ok (_, network) => .ok network
  | .error _ => registry.defaultNetwork

def planSchema (registry : Registry) (s : Schema) : Except Error (Plan RegisteredSchema) := do
  if s.issuerId.isEmpty || s.name.isEmpty || s.version.isEmpty then
    throw (.invalidInput "Missing issuerId, name or version")
  let network ← registry.issuerNetwork s.issuerId
  return ⟨.create network (s.transaction network.name), s.registered⟩

def planDefinition (registry : Registry) (d : Definition) :
    Except Error (Plan RegisteredDefinition) := do
  if d.issuerId.isEmpty || d.schemaId.isEmpty || d.tag.isEmpty then
    throw (.invalidInput "Missing issuerId, schemaId or tag")
  let network ← registry.issuerNetwork d.issuerId
  return ⟨.create network (d.transaction network.name), d.registered⟩

end Registry
end DidLedger
