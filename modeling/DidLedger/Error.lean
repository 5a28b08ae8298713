/-
  DidLedger/Error.lean
  ====================
  **What can go wrong between a caller and a ledger.**

  Every failure has one of ten causes.  The cause gives a short code that stays
  the same from release to release, and a sentence that can be shown to a user.
-/
import DidLedger.Json.Value

namespace DidLedger

inductive Error where
  | invalidInput (detail : String)
  /-- No network of this name is configured. -/
  | networkNotFound (name : String)
  | configurationEmpty
  /-- The identifier is not a DID of a ledger. -/
  | invalidDid (detail : String)
  /-- The request could not be made, or its answer could not be read. -/
  | transport (detail : String)
  /-- The ledger answered with a status that is not one of success. -/
  | rejected (status : UInt16) (body : String)
  /-- A document, or what the ledger sent in place of one, could not be read. -/
  | malformedDocument (detail : String)
  | unsupported (operation : String)
  /-- The operation is declared but nothing stands behind it. -/
  | notImplemented (operation : String)
  | invalidConfig (detail : String)
deriving DecidableEq, Repr

namespace Error

def code : Error → String
  | .invalidInput _ => "invalid_input"
  | .networkNotFound _ => "network_not_found"
  | .configurationEmpty => "configuration_empty"
  | .invalidDid _ => "invalid_did"
  | .transport _ => "request_error"
  | .rejected _ _ => "ledger_rejected"
  | .malformedDocument _ => "malformed_document"
  | .unsupported _ => "not_supported"
  | .notImplemented _ => "not_implemented"
  | .invalidConfig _ => "invalid_config"

def message : Error → String
  | .invalidInput detail => detail
  | .networkNotFound name => s!"Network config not found for '{name}'"
  | .configurationEmpty => "no ledger networks configured"
  | .invalidDid detail => s!"invalid DID: {detail}"
  | .transport detail => s!"transport error: {detail}"
  | .rejected status body => s!"Ledger returned {status.toNat}: {body}"
  | .malformedDocument detail => s!"malformed DID document: {detail}"
  | .unsupported operation => s!"{operation} not supported"
  | .notImplemented operation => s!"not implemented: {operation}"
  | .invalidConfig detail => s!"invalid configuration: {detail}"

/-- The failure in the form that authorization servers use. -/
def toJson (e : Error) : Json :=
  .object [("error", .string e.code), ("error_description", .string e.message)]

end Error
end DidLedger
