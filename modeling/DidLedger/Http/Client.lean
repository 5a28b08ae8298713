/-
  DidLedger/Http/Client.lean
  ==========================
  **Ledgers reached over HTTP.**

  A request is put together before anything is sent: the URL from the base URL
  and the path, the headers with the token, the body as compact JSON.  A user that
  the URL names is taken out of it and goes in front of the token.  What cannot be
  put together is a failure of transport, and so is an exchange that gives no
  whole response and a response of success that is not JSON.  A response with
  any other status is a rejection by the ledger, whatever its text.

  One message is handed to an exchange for each request.  A response may send a
  client on to another place; what it does then is part of the exchange
  (`Http/Redirect`).
-/
import DidLedger.Http.Message
import DidLedger.Json.Parser
import DidLedger.Json.Printer
import DidLedger.Text.Base64
import DidLedger.Text.Blank
import DidLedger.Text.Charset

namespace DidLedger.Http

open DidLedger DidLedger.Text

/-! ### Clients -/

/-- What a client relies on and does not bring along itself. -/
structure Stack where
  idna : Url.Idna
  legacy : Legacy
  /-- The place that a text refers to, as seen from another place. -/
  join : Url → String → Option Url
  /-- How many times a client lets itself be sent on. -/
  redirects : Nat

/-- A stack for names in ASCII, encodings of Unicode and whole addresses. -/
def Stack.plain : Stack where
  idna _ := none
  legacy _ := none
  join _ place := (Url.parse (fun _ => none) place).toOption
  redirects := 9

structure Client extends Stack where
  /-- What the client accepts in an answer. -/
  accept : String

def Client.json (stack : Stack) : Client := ⟨stack, "application/json"⟩

def Client.plain (stack : Stack) : Client := ⟨stack, "*/*"⟩

/-! ### Requests -/

def jsonType : String := "application/json"

/-- Whether a text can be the value of a header: it holds no control but tabs. -/
def isHeaderValue (s : String) : Bool :=
  s.toList.all fun c => (decide (0x20 ≤ c.toNat) && c != '\x7f') || c == '\t'

/-- A base URL without the slashes at its end. -/
def trimBase (baseUrl : String) : String :=
  String.ofList ((baseUrl.toList.reverse.dropWhile (· == '/')).reverse)

/-- The URL of a path on a network. -/
def urlOf (client : Client) (network : Network) (path : String) : Except Error Url :=
  match Url.parse client.idna (trimBase network.baseUrl ++ path) with
  | .ok url => .ok url
  | .error fault => .error (.transport s!"invalid ledger URL: {fault.message}")

/-- The value of the authorization header of a network. -/
def authorizationOf (network : Network) : Except Error (Option String) :=
  match network.authToken with
  | none => .ok none
  | some token =>
    if isHeaderValue token then .ok (some token)
    else .error (.transport
      s!"invalid authorization token for '{network.name}': failed to parse header value")

/-- The authorization that stands for the user of a URL, if it names one.  A password
    that is no text counts as none. -/
def credentials? (url : Url) : Option String := do
  let name ← (Percent.decode? url.user.name).toOption
  let password := url.user.password.bind fun password => (Percent.decode? password).toOption
  if name.isEmpty && password.isNone then none
  else some ("Basic " ++ Base64.encode (Utf8.encode (name ++ ":" ++ password.getD "")))

/-- The URL without the user that stands in the credentials. -/
def anonymous (url : Url) : Url :=
  if (credentials? url).isSome then { url with user := .nobody } else url

/-- A request that did not get an answer, and why. -/
def unanswered (request : Request) (reason : String) : Error :=
  .transport s!"{request.method.name} {request.path} failed: {reason}"

/-- Puts a request together.  The URL is looked at before the token, and the
    scheme after it. -/
def prepare (client : Client) (network : Network) (request : Request) : Except Error Message := do
  let url ← urlOf client network request.path
  let authorization ← authorizationOf network
  if url.scheme = "http" ∨ url.scheme = "https" then
    return {
      method := request.method
      url := anonymous url
      accept := client.accept
      authorization := (credentials? url).toList ++ authorization.toList
      contentType := request.body.map fun _ => jsonType
      body := request.body.map Json.render }
  else throw (unanswered request "builder error")

/-! ### Responses -/

/-- The answer that a whole response stands for. -/
def answerOf (status : UInt16) (text : String) : Answer :=
  if !isSuccess status then .error (.rejected status text)
  else if Blank.isBlank text then .ok .null
  else match Json.parse? text with
    | some value => .ok value
    | none => .error (.transport "malformed JSON in ledger response")

/-- The text of a body, as the client reads it. -/
def bodyText (client : Client) (head : Head) (body : List UInt8) : String :=
  decodeAs client.legacy head.charset body

/-- The answer that a delivery stands for. -/
def unpack (client : Client) (request : Request) : Delivery → Answer
  | .failed reason => .error (unanswered request reason)
  | .cutShort _ => .error (.transport "failed to read response body")
  | .complete head body => answerOf head.status (bodyText client head body)

def transport {σ : Type} (client : Client) (exchange : Exchange σ) : Transport σ :=
  fun network request s =>
    match prepare client network request with
    | .error e => (.error e, s)
    | .ok message =>
      let (delivery, s) := exchange message s
      (unpack client request delivery, s)

end DidLedger.Http
