/-
  DidLedger/Credential/Schema.lean
  ================================
  **Schemas of anonymous credentials.**

  A schema names the attributes of a credential.  Its identifier on the ledger
  is put together from the issuer, the number 2, the name and the version.
-/
import DidLedger.Ledger.Transaction

namespace DidLedger.Credential

open DidLedger DidLedger.Ledger

structure Schema where
  /-- The DID of who publishes the schema. -/
  issuerId : String
  name : String
  version : String
  /-- The names of the attributes, in order. -/
  attrNames : List String
deriving DecidableEq, Repr

structure RegisteredSchema where
  schemaId : String
  schema : Schema
deriving DecidableEq, Repr

namespace Schema

def shape : Shape Schema :=
  .record "Schema"
    (.cons (.required "issuerId") .string
      (.cons (.required "name") .string
        (.cons (.required "version") .string
          (.cons (.withDefault "attrNames" []) (.sequence .string) .nil))))
    (fun (issuerId, name, version, attrNames, _) => ⟨issuerId, name, version, attrNames⟩)
    (fun s => (s.issuerId, s.name, s.version, s.attrNames, ()))
    (fun _ => rfl)

def ledgerId (s : Schema) : String :=
  s.issuerId ++ ":2:" ++ s.name ++ ":" ++ s.version

def transaction (network : String) (s : Schema) : Transaction :=
  ⟨.schema, network, .object
    [("identifier", .string s.issuerId),
     ("operation", .object
       [("data", .object
         [("attrNames", .array (s.attrNames.map .string)),
          ("name", .string s.name),
          ("version", .string s.version)])])]⟩

def registered (s : Schema) : RegisteredSchema :=
  ⟨s.ledgerId, s⟩

end Schema

def RegisteredSchema.shape : Shape RegisteredSchema :=
  .record "RegisteredSchema"
    (.cons (.required "schemaId") .string
      (.cons (.required "schema") Schema.shape .nil))
    (fun (schemaId, schema, _) => ⟨schemaId, schema⟩)
    (fun r => (r.schemaId, r.schema, ()))
    (fun _ => rfl)

end DidLedger.Credential
