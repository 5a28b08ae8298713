/-
  DidLedger/Credential/Definition.lean
  ====================================
  **Definitions of anonymous credentials.**

  A definition binds a schema to the public keys of an issuer.  The key material
  is passed on without a look at it.  The identifier on the ledger is put
  together from the issuer, the number 3, the signature type, the schema and the
  tag.
-/
import DidLedger.Ledger.Transaction

namespace DidLedger.Credential

open DidLedger DidLedger.Ledger

/-- The key material of a definition. -/
structure KeyMaterial where
  primary : Json
  /-- The public key of revoking, if credentials can be revoked. -/
  revocation : Option Json

structure Definition where
  /-- The DID of who publishes the definition. -/
  issuerId : String
  schemaId : String
  type : String
  /-- What tells definitions of one schema and issuer apart. -/
  tag : String
  value : KeyMaterial

structure RegisteredDefinition where
  definitionId : String
  definition : Definition

namespace KeyMaterial

def empty : KeyMaterial := ⟨.null, none⟩

def shape : Shape KeyMaterial :=
  .record "CredentialDefinitionValue"
    (.cons (.withDefault "primary" .null) .json
      (.cons (.trailing "revocation") (.optional .json) .nil))
    (fun (primary, revocation, _) => ⟨primary, revocation⟩)
    (fun v => (v.primary, v.revocation, ()))
    (fun _ => rfl)

end KeyMaterial

namespace Definition

/-- The signature type of a definition that names none. -/
def defaultType : String := "CL"

def shape : Shape Definition :=
  .record "CredentialDefinition"
    (.cons (.required "issuerId") .string
      (.cons (.required "schemaId") .string
        (.cons (.withDefault "type" defaultType) .string
          (.cons (.required "tag") .string
            (.cons (.withDefault "value" KeyMaterial.empty) KeyMaterial.shape .nil)))))
    (fun (issuerId, schemaId, type, tag, value, _) => ⟨issuerId, schemaId, type, tag, value⟩)
    (fun d => (d.issuerId, d.schemaId, d.type, d.tag, d.value, ()))
    (fun _ => rfl)

def ledgerId (d : Definition) : String :=
  d.issuerId ++ ":3:" ++ d.type ++ ":" ++ d.schemaId ++ ":" ++ d.tag

/-- The transaction that publishes a definition; a key that is not there is
    sent as `null`. -/
def transaction (network : String) (d : Definition) : Transaction :=
  ⟨.credentialDefinition, network, .object
    [("identifier", .string d.issuerId),
     ("operation", .object
       [("data", .object
         [("primary", d.value.primary),
          ("revocation", d.value.revocation.getD .null)]),
        ("ref", .string d.schemaId),
        ("signature_type", .string d.type),
        ("tag", .string d.tag)])]⟩

def registered (d : Definition) : RegisteredDefinition :=
  ⟨d.ledgerId, d⟩

end Definition

def RegisteredDefinition.shape : Shape RegisteredDefinition :=
  .record "RegisteredCredentialDefinition"
    (.cons (.required "credentialDefinitionId") .string
      (.cons (.required "credentialDefinition") Definition.shape .nil))
    (fun (definitionId, definition, _) => ⟨definitionId, definition⟩)
    (fun r => (r.definitionId, r.definition, ()))
    (fun _ => rfl)

end DidLedger.Credential
