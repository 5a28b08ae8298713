/-
  DidLedger/Document.lean
  =======================
  **DID documents.**

  A ledger stores keys, not documents.  The document of a DID is built from the
  key: it has one verification method, whose id is the DID with the fragment
  `key-1`, and one authentication reference, which points to it.

  Documents that arrive as JSON are read as they are and then have to have an id
  and at least one verification method.
-/
import DidLedger.Error
import DidLedger.Shape.Reader
import DidLedger.Shape.Writer
import DidLedger.Text.Base58

namespace DidLedger

open DidLedger.Text

/-! ### The parts of a document -/

inductive MethodType where
  | ed25519
deriving DecidableEq, Repr

structure VerificationMethod where
  id : String
  type : MethodType
  /-- The DID of who controls the key. -/
  controller : String
  /-- The key in base 58, as the ledger gave it. -/
  publicKeyBase58 : String
deriving DecidableEq, Repr

structure Document where
  context : List String
  id : String
  verificationMethod : List VerificationMethod
  /-- The ids of the methods that the subject authenticates with, in order. -/
  authentication : List String
deriving DecidableEq, Repr

namespace MethodType

def name : MethodType → String
  | .ed25519 => "Ed25519VerificationKey2018"

def shape : Shape MethodType :=
  .choice [("Ed25519VerificationKey2018", .ed25519)] name (fun a => by cases a; rfl)

end MethodType

namespace VerificationMethod

def shape : Shape VerificationMethod :=
  .record "VerificationMethod"
    (.cons (.required "id") .string
      (.cons (.required "type") MethodType.shape
        (.cons (.required "controller") .string
          (.cons (.required "publicKeyBase58") .string .nil))))
    (fun (id, type, controller, key, _) => ⟨id, type, controller, key⟩)
    (fun m => (m.id, m.type, m.controller, m.publicKeyBase58, ()))
    (fun _ => rfl)

def keyBytes (m : VerificationMethod) : Except Error (List UInt8) :=
  match Base58.decode? m.publicKeyBase58 with
  | some bytes => .ok bytes
  | none => .error (.malformedDocument "public key is not base58: Invalid base string")

end VerificationMethod

namespace Document

def shape : Shape Document :=
  .record "DidDocument"
    (.cons (.withDefault "@context" []) (.sequence .string)
      (.cons (.required "id") .string
        (.cons (.withDefault "verificationMethod" []) (.sequence VerificationMethod.shape)
          (.cons (.withDefault "authentication" []) (.sequence .string) .nil))))
    (fun (context, id, methods, authentication, _) => ⟨context, id, methods, authentication⟩)
    (fun d => (d.context, d.id, d.verificationMethod, d.authentication, ()))
    (fun _ => rfl)

/-! ### Building -/

def baseContext : String := "https://w3id.org/did/v1"

/-- The fragment of the method of a ledger DID. -/
def keyFragment : String := "key-1"

/-- A document of which only the subject is known. -/
def new (did : String) : Document :=
  ⟨[baseContext], did, [], []⟩

def addContext (d : Document) (context : String) : Document :=
  { d with context := d.context ++ [context] }

def addMethod (d : Document) (m : VerificationMethod) : Document :=
  { d with verificationMethod := d.verificationMethod ++ [m] }

def addAuthentication (d : Document) (id : String) : Document :=
  { d with authentication := d.authentication ++ [id] }

inductive Step where
  | context (context : String)
  | verificationMethod (method : VerificationMethod)
  | authentication (id : String)
deriving DecidableEq, Repr

def step (d : Document) : Step → Document
  | .context c => d.addContext c
  | .verificationMethod m => d.addMethod m
  | .authentication id => d.addAuthentication id

def extend (d : Document) (steps : List Step) : Document :=
  steps.foldl step d

/-- The id of the method of a ledger DID. -/
def keyId (did : String) : String :=
  did ++ "#" ++ keyFragment

/-- The document of a ledger DID and its key. -/
def build (did key : String) : Document :=
  ((new did).addMethod ⟨keyId did, .ed25519, did, key⟩).addAuthentication (keyId did)

/-! ### Looking methods up -/

/-- The first verification method with an id. -/
def findMethod? (d : Document) (id : String) : Option VerificationMethod :=
  d.verificationMethod.find? fun m => m.id == id

/-- The method of the first authentication reference that has one. -/
def authenticationKey? (d : Document) : Option VerificationMethod :=
  d.authentication.findSome? d.findMethod?

/-! ### Reading -/

/-- What a document has to have to be usable. -/
def check (d : Document) : Except Error Document :=
  if d.id.isEmpty then .error (.malformedDocument "document has no id")
  else if d.verificationMethod.isEmpty then
    .error (.malformedDocument s!"document {d.id} has no verification method")
  else .ok d

def parse (j : Json) : Except Error Document :=
  match shape.readValue j with
  | .ok d => check d
  | .error misfit =>
    .error (.malformedDocument s!"issue deserializing document: {misfit.message}")

end Document
end DidLedger
