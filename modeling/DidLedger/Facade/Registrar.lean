/-
  DidLedger/Facade/Registrar.lean
  ===============================
  **The registration interface of agent frameworks.**

  A request carries options, a result carries the state of the DID.  The
  registrar turns one into calls of the service and the outcomes into the other.
  It adds two rules of its own: a DID that the caller asks for has to be the one
  that comes out of the options, and updates and deactivations can be switched
  off.
-/
import DidLedger.Service.Basic

namespace DidLedger.Facade

open DidLedger

/-! ### Requests -/

structure DidCreateOptions where
  /-- The DID method; it names the network where the options name none. -/
  method : Option String
  /-- The DID that is expected to come out. -/
  did : Option String
  options : CreateOptions
deriving DecidableEq, Repr

def DidCreateOptions.shape : Shape DidCreateOptions :=
  .record "DidCreateOptions"
    (.cons (.optional "method") (.optional .string)
      (.cons (.optional "did") (.optional .string)
        (.cons (.withDefault "options" CreateOptions.empty) CreateOptions.shape .nil)))
    (fun (method, did, options, _) => ⟨method, did, options⟩)
    (fun o => (o.method, o.did, o.options, ()))
    (fun _ => rfl)

structure DidUpdateOptions where
  did : String
  options : UpdateFields
deriving DecidableEq, Repr

def DidUpdateOptions.shape : Shape DidUpdateOptions :=
  .record "DidUpdateOptions"
    (.cons (.required "did") .string
      (.cons (.withDefault "options" UpdateFields.empty) UpdateFields.shape .nil))
    (fun (did, options, _) => ⟨did, options⟩)
    (fun o => (o.did, o.options, ()))
    (fun _ => rfl)

structure DidDeactivateOptions where
  did : String
deriving DecidableEq, Repr

def DidDeactivateOptions.shape : Shape DidDeactivateOptions :=
  .record "DidDeactivateOptions" (.cons (.required "did") .string .nil)
    (fun (did, _) => ⟨did⟩)
    (fun o => (o.did, ()))
    (fun _ => rfl)

/-! ### Results -/

inductive State where
  | finished
  | failed
deriving DecidableEq, Repr

namespace State

def name : State → String
  | .finished => "finished"
  | .failed => "failed"

def shape : Shape State :=
  .choice [("finished", .finished), ("failed", .failed)] name (fun a => by cases a <;> rfl)

end State

/-- What the caller of a creation has to keep. -/
structure Secret where
  verkey : String
deriving DecidableEq, Repr

def Secret.shape : Shape Secret :=
  .record "Secret" (.cons (.required "verkey") .string .nil)
    (fun (verkey, _) => ⟨verkey⟩)
    (fun s => (s.verkey, ()))
    (fun _ => rfl)

/-- The state of a DID after an operation. -/
structure DidState where
  state : State
  did : Option String
  /-- What the caller has to keep, if there is anything. -/
  secret : Option Secret
  didDocument : Option Document
  /-- Why the operation failed, if it did. -/
  reason : Option String
deriving DecidableEq, Repr

def DidState.shape : Shape DidState :=
  .record "DidState"
    (.cons (.required "state") State.shape
      (.cons (.optional "did") (.optional .string)
        (.cons (.optional "secret") (.optional Secret.shape)
          (.cons (.optional "didDocument") (.optional Document.shape)
            (.cons (.optional "reason") (.optional .string) .nil)))))
    (fun (state, did, secret, didDocument, reason, _) => ⟨state, did, secret, didDocument, reason⟩)
    (fun s => (s.state, s.did, s.secret, s.didDocument, s.reason, ()))
    (fun _ => rfl)

structure DidOperationResult where
  didState : DidState
  didDocumentMetadata : List (String × Json)
  didRegistrationMetadata : List (String × Json)

namespace DidOperationResult

def shape : Shape DidOperationResult :=
  .record "DidOperationResult"
    (.cons (.required "didState") DidState.shape
      (.cons (.required "didDocumentMetadata") .dictionary
        (.cons (.required "didRegistrationMetadata") .dictionary .nil)))
    (fun (didState, document, registration, _) => ⟨didState, document, registration⟩)
    (fun r => (r.didState, r.didDocumentMetadata, r.didRegistrationMetadata, ()))
    (fun _ => rfl)

/-- A finished operation, with what is known of the DID. -/
def finished (state : DidState) : DidOperationResult :=
  ⟨{ state with state := .finished }, [], []⟩

def failed (reason : String) : DidOperationResult :=
  ⟨⟨.failed, none, none, none, some reason⟩, [], []⟩

def ofCreated : Outcome CreatedDid → DidOperationResult
  | .finished created =>
    finished ⟨.finished, some created.did, some ⟨created.verkey⟩, some created.document, none⟩
  | .failed reason => failed reason

/-- The result of a change to a DID or of its removal. -/
def ofChanged (did : String) : Outcome Unit → DidOperationResult
  | .finished _ => finished ⟨.finished, some did, none, none, none⟩
  | .failed reason => failed reason

end DidOperationResult

/-! ### The registrar -/

/-- The operations that a registrar offers besides creation. -/
structure Capabilities where
  update : Bool
  deactivate : Bool
deriving DecidableEq, Repr

namespace Capabilities

def all : Capabilities := ⟨true, true⟩

def createOnly : Capabilities := ⟨false, false⟩

end Capabilities

structure Registrar (σ : Type) where
  service : Service σ
  capabilities : Capabilities

/-- The result of an operation that is switched off. -/
def gated (operation : String) : DidOperationResult :=
  .failed (Error.unsupported operation).message

namespace Registrar

variable {σ : Type}

def new (service : Service σ) : Registrar σ :=
  ⟨service, .all⟩

/-- The options of the service: the method names the network where the options
    name none. -/
def effective (o : DidCreateOptions) : CreateOptions :=
  { o.options with network := o.options.network <|> o.method }

/-- The name of the network a DID is created on, none if it is left to a default
    that is not configured. -/
def targetName? (registry : Registry) (o : CreateOptions) : Option String :=
  match o.network with
  | some name => some name
  | none => registry.networks.head?.map (·.name)

/-- Why a requested DID cannot come out of the options, if it cannot. -/
def mismatch? (registry : Registry) (o : DidCreateOptions) : Option Error :=
  match o.did, targetName? registry (effective o) with
  | some requested, some network =>
    let derived := (Did.mk network o.options.methodSpecificId).display
    if requested = derived then none
    else some (.invalidInput s!"requested DID '{requested}' does not match '{derived}'")
  | _, _ => none

def create (registrar : Registrar σ) (o : DidCreateOptions) (s : σ) : DidOperationResult × σ :=
  match mismatch? registrar.service.registry o with
  | some e => (.failed e.message, s)
  | none => (registrar.service.create (effective o) s).map .ofCreated id

def update (registrar : Registrar σ) (o : DidUpdateOptions) (s : σ) : DidOperationResult × σ :=
  if registrar.capabilities.update then
    (registrar.service.update o.did o.options s).map (.ofChanged o.did) id
  else (gated "Update", s)

def deactivate (registrar : Registrar σ) (o : DidDeactivateOptions) (s : σ) :
    DidOperationResult × σ :=
  if registrar.capabilities.deactivate then
    (registrar.service.deactivate o.did s).map (.ofChanged o.did) id
  else (gated "Deactivate", s)

def supportedMethods (registrar : Registrar σ) : List String :=
  registrar.service.registry.names

end Registrar
end DidLedger.Facade
