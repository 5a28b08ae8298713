import DidLedger.Credential.Definition
import DidLedger.Credential.Schema
import DidLedger.Decimal.Binary64
import DidLedger.Decimal.Shortest
import DidLedger.Did
import DidLedger.Document
import DidLedger.Error
import DidLedger.Facade.Agent
import DidLedger.Facade.Calls
import DidLedger.Facade.Registrar
import DidLedger.Facade.Resolver
import DidLedger.Http.Client
import DidLedger.Http.Message
import DidLedger.Http.Redirect
import DidLedger.Json.Number
import DidLedger.Json.Parser
import DidLedger.Json.Printer
import DidLedger.Json.Value
import DidLedger.Json.Written
import DidLedger.Ledger.Server
import DidLedger.Ledger.Store
import DidLedger.Ledger.Transaction
import DidLedger.Network
import DidLedger.Service.Basic
import DidLedger.Service.Outcome
import DidLedger.Service.Plan
import DidLedger.Shape.Basic
import DidLedger.Shape.Misfit
import DidLedger.Shape.Reader
import DidLedger.Shape.Writer
import DidLedger.Text.Base58
import DidLedger.Text.Base64
import DidLedger.Text.Blank
import DidLedger.Text.Charset
import DidLedger.Text.Hex
import DidLedger.Text.Percent
import DidLedger.Text.Printable
import DidLedger.Text.Quoted
import DidLedger.Text.Split
import DidLedger.Text.Utf16
import DidLedger.Text.Utf8
import DidLedger.Transport
import DidLedger.Url.Basic
import DidLedger.Url.Host
import DidLedger.Url.Path
import DidLedger.Proofs.Did.Grammar
import DidLedger.Proofs.Did.LastSegment
import DidLedger.Proofs.Except
import DidLedger.Proofs.Facade.Calls
import DidLedger.Proofs.Http.Answer
import DidLedger.Proofs.Http.Writes
import DidLedger.Proofs.Json.RoundTrip
import DidLedger.Proofs.Json.Tokens
import DidLedger.Proofs.Json.WellFormed
import DidLedger.Proofs.Ledger.Directory
import DidLedger.Proofs.Ledger.Emulation
import DidLedger.Proofs.Ledger.Filing
import DidLedger.Proofs.Ledger.Keys
import DidLedger.Proofs.Ledger.Requests
import DidLedger.Proofs.Ledger.Server
import DidLedger.Proofs.Service.Admission
import DidLedger.Proofs.Service.Answer
import DidLedger.Proofs.Service.Course
import DidLedger.Proofs.Service.Destination
import DidLedger.Proofs.Service.Plan
import DidLedger.Proofs.Service.Routing
import DidLedger.Proofs.Shape.Record
import DidLedger.Proofs.Text.Percent
import DidLedger.Proofs.Text.Utf8
import DidLedger.Proofs.Url.Base
import DidLedger.Proofs.Url.Plain
import DidLedger.Proofs.Ledger.Steps
import DidLedger.Proofs.Ledger.Frame
import DidLedger.Proofs.Ledger.Objects
import DidLedger.Proofs.Ledger.Records
import DidLedger.Proofs.Ledger.Commuting
import DidLedger.Proofs.Service.Order
import DidLedger.Proofs.Text.Base58
import DidLedger.Proofs.Ledger.ReadBack
import DidLedger.Proofs.Facade.Image
import DidLedger.Proofs.Json.Sorted
import DidLedger.Proofs.Shape.NormalForm
import DidLedger.Proofs.Shape.WireTypes
import DidLedger.Proofs.Decimal.Rounding
import DidLedger.Proofs.Decimal.Finite
import DidLedger.Proofs.Json.Reals
import DidLedger.Proofs.Ledger.Rejection
import DidLedger.Proofs.Ledger.Authorization
import DidLedger.Proofs.Text.Front
import DidLedger.Proofs.Ledger.Paths
import DidLedger.Proofs.Network.Loading
import DidLedger.Proofs.Service.Creation
import DidLedger.Proofs.Facade.Requested
import DidLedger.Proofs.Network.Naming
import DidLedger.Proofs.Credential.Identifiers
import DidLedger.Proofs.Credential.Publication
import DidLedger.Proofs.Shape.Text
import DidLedger.Proofs.Network.Saving
import DidLedger.Proofs.Document.Authentication
import DidLedger.Proofs.Document.Usable
import DidLedger.Proofs.Http.Contract
import DidLedger.Proofs.Http.Target
import DidLedger.Proofs.Text.Utf16
import DidLedger.Proofs.Text.Charset
import DidLedger.Proofs.Json.Depth
import DidLedger.Proofs.Http.Redirect
