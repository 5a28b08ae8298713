/-
  DidLedger/Ledger/Server.lean
  ============================
  **The ledger behind an HTTP server.**

  The server has one route for each action.  A route is found by the segments of
  the path as they are sent; only then are the escapes of each segment undone,
  so an escaped slash never separates segments.  A server may ask for a token,
  and it may answer every read with a fixed text in place of the stored nym.

  What a message names is read before its authorization is looked at, its body
  included.  A body may be too large to be taken in.
-/
import DidLedger.Http.Message
import DidLedger.Json.Parser
import DidLedger.Json.Printer
import DidLedger.Ledger.Store

namespace DidLedger.Ledger

open DidLedger DidLedger.Text

/-- How a server takes in the body of a message. -/
structure Intake where
  /-- The number of octets that a body may have, if there is a limit. -/
  limit : Option Nat
  /-- What is the matter with a text that is not JSON. -/
  complaint : String → String

/-- Takes in bodies of any size. -/
def Intake.boundless : Intake := ⟨none, fun _ => ""⟩

structure Server where
  host : Url.Host
  port : Nat
  /-- The authorization that every request has to carry, if one is asked for. -/
  token : Option String
  /-- The text with which every read is answered, if it is fixed. -/
  readBody : Option String
  intake : Intake

namespace Server

/-- The address of the machine itself. -/
def loopback : Url.Host := .ipv4 0x7F000001

/-- The server at a port of the machine itself. -/
def start (port : UInt16) (token readBody : Option String) : Server :=
  ⟨loopback, port.toNat, token, readBody, .boundless⟩

/-- The URL of the server at a port of the machine itself. -/
def urlAt (port : UInt16) : String :=
  "http://127.0.0.1:" ++ toString port.toNat

end Server

/-- The status of a response, its text and the character set that is given for it. -/
structure Reply where
  status : UInt16
  charset : Option String
  text : String
deriving DecidableEq, Repr

/-- A reply that is a text. -/
def Reply.ofText (status : UInt16) (text : String) : Reply :=
  ⟨status, some "utf-8", text⟩

def Reply.ofRejection (r : Rejection) : Reply :=
  .ofText r.status r.body

/-- The reply to an action that was carried out. -/
def Reply.ofResult : Except Rejection Json → Reply
  | .ok value => ⟨200, none, value.render⟩
  | .error rejection => .ofRejection rejection

/-- What is delivered of a reply; no reply refers to another place. -/
def Reply.delivery (reply : Reply) : Http.Delivery :=
  .complete ⟨reply.status, reply.charset, none⟩ (Utf8.encode reply.text)

/-! ### Routes -/

def segments (path : String) : List (List Char) :=
  Split.atEvery (· == '/') (path.toList.drop 1)

/-- A path parameter; its name is part of what is said if it is no text. -/
def parameter (name : String) (segment : List Char) : Except Rejection String :=
  match Percent.decode? (String.ofList segment) with
  | .ok s => .ok s
  | .error _ => .error ⟨400, s!"Invalid URL: Invalid UTF-8 in `{name}`"⟩

/-- The rejection of a body of another type than JSON. -/
def wrongType : Rejection := ⟨415, "Expected request with `Content-Type: application/json`"⟩

/-- The rejection of a body that is too large. -/
def tooLarge : Rejection := ⟨413, "Failed to buffer the request body: length limit exceeded"⟩

/-- The rejection of a body that is not JSON. -/
def notJson (complaint : String) : Rejection :=
  ⟨400, "Failed to parse the request body as JSON: " ++ complaint⟩

/-- Whether a text is no larger than what is taken in. -/
def Intake.fits (intake : Intake) (text : String) : Bool :=
  intake.limit.all fun limit => decide ((Utf8.encode text).length ≤ limit)

/-- The value that a text is taken in as. -/
def Intake.read (intake : Intake) (text : String) : Except Rejection Json :=
  if !intake.fits text then .error tooLarge
  else match Json.parse? text with
    | some value => .ok value
    | none => .error (notJson (intake.complaint text))

/-- The value in the body of a message. -/
def Intake.bodyValue (intake : Intake) (m : Http.Message) : Except Rejection Json :=
  if m.contentType = some "application/json" then intake.read (m.body.getD "")
  else .error wrongType

/-- The rejection of a path that exists for another method. -/
def wrongMethod : Rejection := ⟨405, ""⟩

/-- The rejection of a path that does not exist. -/
def noPath : Rejection := ⟨404, ""⟩

/-- The routes that take a body, which hold one segment. -/
inductive WriteRoute where
  | create
  | update
deriving DecidableEq, Repr

namespace WriteRoute

def path : WriteRoute → String
  | .create => createPath
  | .update => updatePath

/-- The action of a body that came by the route. -/
def action : WriteRoute → Json → Action
  | .create => .create
  | .update => .update

/-- The route at a segment. -/
def at? (root : List Char) : Option WriteRoute :=
  [create, update].find? fun route => root == route.path.toList.drop 1

end WriteRoute

/-- The action that a message names. -/
def Action.ofMessage (intake : Intake) (m : Http.Message) : Except Rejection Action :=
  match segments m.url.path with
  | [root] =>
    match WriteRoute.at? root with
    | some route =>
      if m.method = .post then (intake.bodyValue m).map route.action else .error wrongMethod
    | none => .error noPath
  | [root, id] =>
    if root = "DeleteTransaction".toList ∧ id ≠ [] then
      if m.method = .delete then (parameter "id" id).map .delete else .error wrongMethod
    else .error noPath
  | [root, id, kind] =>
    if root = "ReadTransaction".toList ∧ id ≠ [] ∧ kind ≠ [] then
      if m.method = .get then do
        let id ← parameter "id" id
        let kind ← parameter "kind" kind
        return .read id kind
      else .error wrongMethod
    else .error noPath
  | _ => .error noPath

/-! ### Answers -/

namespace Server

/-- A header value as it is received: blanks around it do not belong to it. -/
def received (value : String) : String :=
  let isEdge (c : Char) : Bool := c == ' ' || c == '\t'
  String.ofList (((value.toList.dropWhile isEdge).reverse.dropWhile isEdge).reverse)

/-- Whether a header value can be compared with a text: it is printable ASCII. -/
def isVisible (value : String) : Bool :=
  value.toList.all fun c => (decide (0x20 ≤ c.toNat) && decide (c.toNat < 0x7F)) || c == '\t'

/-- Whether a message carries the authorization that the server asks for.  Of several
    values the first one counts. -/
def authorizes (server : Server) (m : Http.Message) : Bool :=
  match server.token with
  | none => true
  | some token =>
    match m.authorization.head?.map received with
    | some value => isVisible value && value == token
    | none => false

/-- The rejection of a message without the right authorization. -/
def unauthorized : Rejection := ⟨401, "unauthorized"⟩

/-- Carries out an action for a message that has the right to it. -/
def perform (server : Server) (action : Action) (s : Store) : Reply × Store :=
  match action, server.readBody with
  | .read _ _, some text => (.ofText 200 text, s)
  | action, _ => (s.perform action).map .ofResult id

def answer (server : Server) (m : Http.Message) (s : Store) : Reply × Store :=
  match Action.ofMessage server.intake m with
  | .error rejection => (.ofRejection rejection, s)
  | .ok action =>
    if server.authorizes m then server.perform action s
    else (.ofRejection unauthorized, s)

/-- Whether a URL leads to the server. -/
def isAt (server : Server) (url : Url) : Bool :=
  url.scheme == "http" && url.host == some server.host && url.port.getD 80 == server.port

/-- The exchange in which only this server can be reached. -/
def exchange (server : Server) : Http.Exchange Store :=
  fun m s =>
    if server.isAt m.url then
      let (reply, s) := server.answer m s
      (reply.delivery, s)
    else (.failed Http.unsent, s)

end Server
end DidLedger.Ledger
