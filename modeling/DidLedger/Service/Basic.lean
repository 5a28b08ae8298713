/-
  DidLedger/Service/Basic.lean
  ============================
  **The life cycle of DIDs on ledgers.**

  Every operation is a plan, at most one request, and a conclusion from the
  answer.  A write concludes only whether the ledger accepted it, so all writes
  are one function on plans; a resolution has to read the answer.
-/
import DidLedger.Service.Plan

namespace DidLedger

open DidLedger.Ledger DidLedger.Credential

/-- Networks, and the transport by which they are reached. -/
structure Service (σ : Type) where
  registry : Registry
  transport : Transport σ

namespace Service

variable {σ : Type}

/-- Carries out a planned write.  A failed plan sends nothing and is its own
    outcome; otherwise one request is sent, and its answer decides. -/
def write {α : Type} (service : Service σ) (plan : Except Error (Plan α)) (s : σ) :
    Outcome α × σ :=
  match plan with
  | .error e => (.failed e.message, s)
  | .ok plan =>
    match service.transport plan.errand.network plan.errand.request s with
    | (.error e, s) => (.failed e.message, s)
    | (.ok _, s) => (.finished plan.result, s)

/-! ### Nyms -/

/-- Registers a DID.  Whether it exists already is for the ledger to say. -/
def create (service : Service σ) (o : CreateOptions) (s : σ) : Outcome CreatedDid × σ :=
  service.write (service.registry.planCreate o) s

/-- The document of a DID from the answer to a read: only the key counts. -/
def documentOf (did : String) (answer : Json) : Resolved :=
  match ReadResponse.shape.readValue answer with
  | .ok response => .found (Document.build did response.result.verkey)
  | .error misfit =>
    .error (Error.malformedDocument s!"no verkey in ledger response: {misfit.message}").message

/-- Resolves a DID to its document.  Nothing is cached. -/
def resolve (service : Service σ) (did : String) (s : σ) : Resolved × σ :=
  match service.registry.planResolve did with
  | .error e => (.error e.message, s)
  | .ok errand =>
    match service.transport errand.network errand.request s with
    | (.error e, s) => (.notFound s!"DID not found: {did}: {e.message}", s)
    | (.ok answer, s) => (documentOf did answer, s)

/-- Changes the key or the role of a DID. -/
def update (service : Service σ) (did : String) (fields : UpdateFields) (s : σ) :
    Outcome Unit × σ :=
  service.write (service.registry.planUpdate did fields) s

def deactivate (service : Service σ) (did : String) (s : σ) : Outcome Unit × σ :=
  service.write (service.registry.planDeactivate did) s

/-! ### Schemas and credential definitions -/

def registerSchema (service : Service σ) (schema : Schema) (s : σ) :
    Outcome RegisteredSchema × σ :=
  service.write (service.registry.planSchema schema) s

def registerDefinition (service : Service σ) (definition : Definition) (s : σ) :
    Outcome RegisteredDefinition × σ :=
  service.write (service.registry.planDefinition definition) s

/-- Reads a schema back, which no ledger offers. -/
def getSchema (_ : Service σ) (schemaId : String) (s : σ) : Outcome Schema × σ :=
  (.failed (Error.notImplemented s!"reading schema {schemaId}").message, s)

/-- Reads a credential definition back, which no ledger offers. -/
def getDefinition (_ : Service σ) (definitionId : String) (s : σ) : Outcome Definition × σ :=
  (.failed (Error.notImplemented s!"reading credential definition {definitionId}").message, s)

end Service

/-! ### Runs of operations -/

inductive Operation where
  | create (options : CreateOptions)
  | resolve (did : String)
  | update (did : String) (fields : UpdateFields)
  | deactivate (did : String)
  | registerSchema (schema : Schema)
  | registerDefinition (definition : Definition)
  | getSchema (schemaId : String)
  | getDefinition (definitionId : String)

inductive Report where
  | created (outcome : Outcome CreatedDid)
  | resolved (resolved : Resolved)
  | updated (outcome : Outcome Unit)
  | deactivated (outcome : Outcome Unit)
  | schemaRegistered (outcome : Outcome RegisteredSchema)
  | definitionRegistered (outcome : Outcome RegisteredDefinition)
  | schemaRead (outcome : Outcome Schema)
  | definitionRead (outcome : Outcome Definition)

namespace Service

variable {σ : Type}

def run (service : Service σ) (s : σ) : Operation → Report × σ
  | .create o => (service.create o s).map .created id
  | .resolve did => (service.resolve did s).map .resolved id
  | .update did fields => (service.update did fields s).map .updated id
  | .deactivate did => (service.deactivate did s).map .deactivated id
  | .registerSchema schema => (service.registerSchema schema s).map .schemaRegistered id
  | .registerDefinition d => (service.registerDefinition d s).map .definitionRegistered id
  | .getSchema schemaId => (service.getSchema schemaId s).map .schemaRead id
  | .getDefinition definitionId => (service.getDefinition definitionId s).map .definitionRead id

def runAll (service : Service σ) (s : σ) : List Operation → List Report × σ
  | [] => ([], s)
  | op :: ops =>
    let (report, s) := service.run s op
    let (reports, s) := service.runAll s ops
    (report :: reports, s)

end Service
end DidLedger
