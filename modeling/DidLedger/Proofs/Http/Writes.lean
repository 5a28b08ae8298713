/-
  DidLedger/Proofs/Http/Writes.lean
  =================================
  **What becomes of a write when a whole response comes back.**

  A network is usable if its base is a web address and its token can stand in a
  header.  Requests to a usable network can be put together, so they are sent.  A
  whole response then decides the outcome by its status and by its text: a write is
  finished if the status is one of success and the text is blank or JSON, and it is
  failed otherwise.  A write has no use for the text, but a text that is no JSON
  makes it fail even though the ledger has accepted it.

  The text is what the client makes of the octets of the body, by their mark and by
  the character set in the head of the response.  The response is the one that the
  exchange comes to in the end, wherever it was sent on before that.
-/
import DidLedger.Proofs.Http.Contract
import DidLedger.Proofs.Ledger.Emulation
import DidLedger.Proofs.Url.Base

namespace DidLedger

open DidLedger.Ledger DidLedger.Text DidLedger.Url

namespace Http

/-! ### Requests that can be put together -/

/-- A network whose base is a web address and whose token can be sent. -/
structure Usable (client : Client) (network : Network) : Prop where
  base : ∃ url, Url.parse client.idna (trimBase network.baseUrl ++ "/") = .ok url ∧
    (url.scheme = "http" ∨ url.scheme = "https")
  token : ∀ token, network.authToken = some token → isHeaderValue token = true

theorem exists_classOf_web {scheme : String} (h : scheme = "http" ∨ scheme = "https") :
    ∃ port, classOf scheme = .web port := by
  rcases h with rfl | rfl
  · exact ⟨80, rfl⟩
  · exact ⟨443, rfl⟩

theorem isPath_of_plainPath {path : String} {first : List Char} {others : List (List Char)}
    (h : PlainPath path first others) : IsPath path.toList := by
  rw [h.path_eq, String.toList_ofList]
  exact ⟨rfl, fun c hc => isAddressChar_of_mem_joinSegments h.plain hc⟩

variable {client : Client} {network : Network}

theorem exists_urlOf (h : Usable client network) {path : String} {first : List Char}
    {others : List (List Char)} (hpath : PlainPath path first others) :
    ∃ url, urlOf client network path = .ok url ∧
      (url.scheme = "http" ∨ url.scheme = "https") := by
  obtain ⟨base, hbase, hscheme⟩ := h.base
  obtain ⟨port, hclass⟩ := exists_classOf_web hscheme
  obtain ⟨url, hurl, hsame, -, -⟩ := parse_append_path hbase hclass (isPath_of_plainPath hpath)
  refine ⟨url, urlOf_eq_ok_iff.2 hurl, ?_⟩
  rw [hsame]
  exact hscheme

/-- **A request to a usable network can be put together.** -/
theorem exists_prepare (h : Usable client network) {r : Request} {first : List Char}
    {others : List (List Char)} (hpath : PlainPath r.path first others) :
    ∃ message, prepare client network r = .ok message := by
  obtain ⟨url, hurl, hscheme⟩ := exists_urlOf h hpath
  exact exists_prepare_iff.2 ⟨⟨url, urlOf_eq_ok_iff.1 hurl, hscheme⟩, h.token⟩

/-! ### Responses -/

/-- A text that counts as an answer: one that is blank or JSON. -/
def Readable (text : String) : Prop :=
  Blank.isBlank text = true ∨ ∃ value, Json.parse? text = some value

theorem exists_answerOf_iff {status : UInt16} {text : String} :
    (∃ value, answerOf status text = .ok value) ↔ isSuccess status = true ∧ Readable text := by
  unfold answerOf Readable
  cases isSuccess status with
  | false => simp
  | true =>
    cases Blank.isBlank text with
    | true => simp
    | false =>
      cases Json.parse? text with
      | none => simp
      | some value => simp

/-- Whether an outcome is what a whole response to a request says: finished if it
    is a success with a readable text, and failed if it is not. -/
def Decides {σ : Type} (client : Client) (exchange : Exchange σ) (s : σ) (errand : Errand)
    (outcome : Outcome Unit) : Prop :=
  ∃ message, prepare client errand.network errand.request = .ok message ∧
    ∀ head body s', exchange message s = (.complete head body, s') →
      (outcome = .finished () ↔
        isSuccess head.status = true ∧ Readable (bodyText client head body)) ∧
      ((∃ reason, outcome = .failed reason) ↔
        ¬(isSuccess head.status = true ∧ Readable (bodyText client head body)))

end Http

namespace Service

variable {σ : Type}

theorem decides_write (client : Http.Client) (exchange : Http.Exchange σ) (registry : Registry)
    (errand : Errand) (husable : Http.Usable client errand.network) {first : List Char}
    {others : List (List Char)} (hpath : PlainPath errand.request.path first others) (s : σ) :
    Http.Decides client exchange s errand
      (write ⟨registry, Http.transport client exchange⟩ (.ok ⟨errand, ()⟩) s).1 := by
  obtain ⟨message, hprepare⟩ := Http.exists_prepare husable hpath
  refine ⟨message, hprepare, ?_⟩
  intro head body s' hresponse
  have hanswer : (Http.transport client exchange errand.network errand.request s).1 =
      Http.answerOf head.status (Http.bodyText client head body) := by
    rw [Http.transport_of_prepare hprepare, hresponse, Http.unpack]
  rw [write_ok, Prod.map_fst, hanswer, ← Http.exists_answerOf_iff]
  cases Http.answerOf head.status (Http.bodyText client head body) with
  | error e => simp [Outcome.ofAnswer]
  | ok value => simp [Outcome.ofAnswer]

/-- **Over HTTP an update and a deactivation are finished exactly when a success
    with a readable text comes back**, and failed when any other whole response
    does. -/
theorem change_finished_iff (client : Http.Client) (exchange : Http.Exchange σ)
    {registry : Registry} {did : String} {parsed : Did} {network : Network}
    (hparse : Did.parse did = .ok parsed) (hfind : registry.find parsed.network = .ok network)
    (husable : Http.Usable client network) (fields : UpdateFields) (s : σ) :
    let service : Service σ := ⟨registry, Http.transport client exchange⟩
    Http.Decides client exchange s (.delete network did) (service.deactivate did s).1 ∧
      Http.Decides client exchange s
        (.update network (.nym network.name (Registry.change parsed fields)) did)
        (service.update did fields s).1 := by
  intro service
  have hdid := Did.parse_eq_ok_iff.1 hparse
  have hlocate := Registry.locate_eq_ok_iff.2 ⟨hdid, hfind⟩
  constructor
  · have hplan := Registry.planDeactivate_eq_ok_iff.2 ⟨parsed, network, hlocate, rfl⟩
    rw [deactivate, hplan]
    exact decides_write client exchange registry (.delete network did) husable
      (plainPath_deletePath hdid) s
  · have hplan : registry.planUpdate did fields =
        .ok ⟨.update network (.nym network.name (Registry.change parsed fields)) did, ()⟩ :=
      Registry.planUpdate_eq_ok_iff.2 ⟨parsed, network, hlocate, rfl⟩
    rw [update, hplan]
    exact decides_write client exchange registry
      (.update network (.nym network.name (Registry.change parsed fields)) did) husable
      plainPath_updatePath s

/-- The other side of an exchange that gives the same response every time. -/
def replying (head : Http.Head) (body : List UInt8) : Http.Exchange Unit :=
  fun _ s => (.complete head body, s)

/-- A service on one network, whose ledger gives the same response every time. -/
def repliedBy (head : Http.Head) (body : List UInt8) : Service Unit :=
  ⟨⟨[.new "testnet" "http://ledger"]⟩, Http.transport (.json .plain) (replying head body)⟩

/-- A service whose ledger gives the same text every time. -/
def answeredBy (status : UInt16) (text : String) : Service Unit :=
  repliedBy (.plain status) (Utf8.encode text)

theorem usable_ledger : Http.Usable (.json .plain) (.new "testnet" "http://ledger") :=
  ⟨⟨⟨"http", some (.domain "ledger"), none, "/", none, .nobody⟩, rfl, .inl rfl⟩,
    fun _ h => by cases h⟩

/-- A blank, and an empty object in an encoding that only the content type tells. -/
theorem change_finished_iff_blank :
    Did.parse "did:testnet:demo123" = .ok ⟨"testnet", "demo123"⟩ ∧
      Http.Usable (.json .plain) (.new "testnet" "http://ledger") ∧
      ((answeredBy 202 " ").deactivate "did:testnet:demo123" ()).1 = .finished () ∧
      ((repliedBy ⟨200, some "UTF-16LE", none⟩ [0x7B, 0, 0x7D, 0]).update
        "did:testnet:demo123" .empty ()).1 = .finished () := by
  have hparse : Did.parse "did:testnet:demo123" = .ok ⟨"testnet", "demo123"⟩ := rfl
  have hfind : (answeredBy 202 " ").registry.find "testnet" =
      .ok (.new "testnet" "http://ledger") := rfl
  have hblank : Http.isSuccess 202 = true ∧
      Http.Readable (Http.bodyText (.json .plain) (.plain 202) (Utf8.encode " ")) :=
    ⟨rfl, .inl rfl⟩
  have hobject : Http.isSuccess 200 = true ∧ Http.Readable (Http.bodyText (.json .plain)
      ⟨200, some "UTF-16LE", none⟩ [0x7B, 0, 0x7D, 0]) :=
    ⟨rfl, .inr ⟨.object [], rfl⟩⟩
  obtain ⟨⟨m, -, hdeactivate⟩, -⟩ := change_finished_iff (.json .plain)
    (replying (.plain 202) (Utf8.encode " ")) hparse hfind usable_ledger .empty ()
  obtain ⟨-, ⟨m', -, hupdate⟩⟩ := change_finished_iff (.json .plain)
    (replying ⟨200, some "UTF-16LE", none⟩ [0x7B, 0, 0x7D, 0]) hparse hfind usable_ledger .empty ()
  exact ⟨hparse, usable_ledger, (hdeactivate (.plain 202) _ () rfl).1.2 hblank,
    (hupdate ⟨200, some "UTF-16LE", none⟩ _ () rfl).1.2 hobject⟩

/-- The ledger accepts the deactivation, and it fails. -/
theorem deactivate_failed_of_success :
    ¬(((answeredBy 200 "OK").deactivate "did:testnet:demo123" ()).1 = .finished () ↔
      Http.isSuccess 200 = true) := by
  have hfailed : ((answeredBy 200 "OK").deactivate "did:testnet:demo123" ()).1 =
      .failed "transport error: malformed JSON in ledger response" := rfl
  rw [hfailed]
  decide

end Service
end DidLedger
