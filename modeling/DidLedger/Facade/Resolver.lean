/-
  DidLedger/Facade/Resolver.lean
  ==============================
  **The resolution interface of agent frameworks.**

  A resolution has the document or says why there is none.  Callers are told
  `notFound` in either case of failure; the message tells the difference.
-/
import DidLedger.Service.Basic

namespace DidLedger.Facade

open DidLedger

/-- What is said about a resolution. -/
structure ResolutionMetadata where
  /-- The content type of the document, if there is one. -/
  contentType : Option String
  /-- The code of the failure, if there is one. -/
  error : Option String
  /-- The sentence of the failure, if there is one. -/
  message : Option String
deriving DecidableEq, Repr

def ResolutionMetadata.shape : Shape ResolutionMetadata :=
  .record "ResolutionMetadata"
    (.cons (.optional "contentType") (.optional .string)
      (.cons (.optional "error") (.optional .string)
        (.cons (.optional "message") (.optional .string) .nil)))
    (fun (contentType, error, message, _) => ⟨contentType, error, message⟩)
    (fun m => (m.contentType, m.error, m.message, ()))
    (fun _ => rfl)

structure Resolution where
  context : String
  /-- The document, if the DID was found. -/
  didDocument : Option Document
  didDocumentMetadata : List (String × Json)
  didResolutionMetadata : ResolutionMetadata

namespace Resolution

def shape : Shape Resolution :=
  .record "Resolution"
    (.cons (.required "@context") .string
      (.cons (.nullable "didDocument") (.optional Document.shape)
        (.cons (.required "didDocumentMetadata") .dictionary
          (.cons (.required "didResolutionMetadata") ResolutionMetadata.shape .nil))))
    (fun (context, document, documentMetadata, resolutionMetadata, _) =>
      ⟨context, document, documentMetadata, resolutionMetadata⟩)
    (fun r => (r.context, r.didDocument, r.didDocumentMetadata, r.didResolutionMetadata, ()))
    (fun _ => rfl)

def baseContext : String := "https://w3id.org/did-resolution/v1"

def documentType : String := "application/did+ld+json"

def notFound : String := "notFound"

def failure (message : String) : Resolution :=
  ⟨baseContext, none, [], ⟨none, some notFound, some message⟩⟩

/-- The resolution of an outcome of the service. -/
def ofResolved : Resolved → Resolution
  | .found document => ⟨baseContext, some document, [], ⟨some documentType, none, none⟩⟩
  | .notFound message => failure message
  | .error message => failure message

end Resolution

structure Resolver (σ : Type) where
  service : Service σ

namespace Resolver

variable {σ : Type}

def resolve (resolver : Resolver σ) (did : String) (s : σ) : Resolution × σ :=
  (resolver.service.resolve did s).map .ofResolved id

def supportedMethods (resolver : Resolver σ) : List String :=
  resolver.service.registry.names

/-- Whether results may be kept; every resolution reads the ledger again. -/
def allowsCaching (_ : Resolver σ) : Bool := false

end Resolver
end DidLedger.Facade
