/-
  DidLedger/Proofs/Http/Contract.lean
  ===================================
  **What a transport over HTTP answers, and what it sends.**

  A request is handed to the wire once or not at all.  It is not handed over if its URL
  is no address of the web or its token cannot stand in a header (`Sendable`); a message
  that is handed over says what the request says (`Conveys`).  What was delivered decides
  the answer, and each answer has one cause (`Contract`): a value is a text of success that
  is blank or JSON, a rejection is any other status with its text, and all else is a failure
  of transport.

  A client may be sent on by what is delivered, and then more messages go over the wire.
  The contract is about those deliveries that send it nowhere; for the others
  `Proofs/Http/Redirect` says what the wire carries.

  The causes of a value exclude each other because no blank text is JSON, in whatever
  alphabet it is blank (`parse?_of_isBlank`).
-/
import DidLedger.Proofs.Except
import DidLedger.Proofs.Http.Answer
import DidLedger.Proofs.Http.Redirect
import DidLedger.Proofs.Json.Depth

namespace DidLedger.Http

open DidLedger.Text

variable {client : Client} {network : Network} {request : Request}

/-! ### Requests that are sent -/

/-- A request that can be put together: it goes to an address of the web, and its token
    can stand in a header. -/
structure Sendable (client : Client) (network : Network) (request : Request) : Prop where
  url : ∃ url, Url.parse client.idna (trimBase network.baseUrl ++ request.path) = .ok url ∧
    (url.scheme = "http" ∨ url.scheme = "https")
  token : ∀ token, network.authToken = some token → isHeaderValue token = true

/-- A message that says what a request to a URL says.  A user in the URL goes into the
    authorization, in front of the token. -/
structure Says (client : Client) (network : Network) (request : Request) (url : Url)
    (message : Message) : Prop where
  method_eq : message.method = request.method
  url_eq : message.url = anonymous url
  accept_eq : message.accept = client.accept
  authorization_eq : message.authorization =
    (credentials? url).toList ++ network.authToken.toList
  contentType_eq : message.contentType = request.body.map fun _ => jsonType
  body_eq : message.body = request.body.map Json.render

/-- A message that says what the request says. -/
def Conveys (client : Client) (network : Network) (request : Request) (message : Message) :
    Prop :=
  ∃ url, Url.parse client.idna (trimBase network.baseUrl ++ request.path) = .ok url ∧
    Says client network request url message

/-- A URL without its user is the same place. -/
theorem exists_anonymous_eq (url : Url) : ∃ user, anonymous url = { url with user } := by
  unfold anonymous
  split
  · exact ⟨.nobody, rfl⟩
  · exact ⟨url.user, rfl⟩

theorem urlOf_eq_ok_iff {path : String} {url : Url} :
    urlOf client network path = .ok url ↔
      Url.parse client.idna (trimBase network.baseUrl ++ path) = .ok url := by
  unfold urlOf
  cases Url.parse client.idna (trimBase network.baseUrl ++ path) with
  | ok url' => simp
  | error fault => simp

theorem authorizationOf_eq_ok_iff {authorization : Option String} :
    authorizationOf network = .ok authorization ↔
      (∀ token, network.authToken = some token → isHeaderValue token = true) ∧
        network.authToken = authorization := by
  unfold authorizationOf
  cases network.authToken with
  | none => simp
  | some token =>
    by_cases h : isHeaderValue token = true
    · simp [h]
    · simp [h]

/-- **A request that is put together is sendable, and its message conveys it.** -/
theorem prepare_eq_ok_iff {message : Message} :
    prepare client network request = .ok message ↔
      Sendable client network request ∧ Conveys client network request message := by
  simp only [prepare, bind_eq_ok_iff, urlOf_eq_ok_iff, authorizationOf_eq_ok_iff]
  constructor
  · rintro ⟨url, hurl, authorization, ⟨htoken, rfl⟩, h⟩
    split at h
    · rename_i hscheme
      cases h
      exact ⟨⟨⟨url, hurl, hscheme⟩, htoken⟩, url, hurl, rfl, rfl, rfl, rfl, rfl, rfl⟩
    · cases h
  · rintro ⟨⟨⟨url, hurl, hscheme⟩, htoken⟩, url', hurl', hmessage⟩
    obtain rfl : url = url' := by
      have hsame := hurl.symm.trans hurl'
      rwa [Except.ok.injEq] at hsame
    refine ⟨url, hurl, _, ⟨htoken, rfl⟩, ?_⟩
    rw [if_pos hscheme]
    cases message
    obtain ⟨rfl, rfl, rfl, rfl, rfl, rfl⟩ := hmessage
    rfl

theorem exists_prepare_iff :
    (∃ message, prepare client network request = .ok message) ↔
      Sendable client network request := by
  constructor
  · rintro ⟨message, h⟩
    exact (prepare_eq_ok_iff.1 h).1
  · intro h
    obtain ⟨url, hurl, -⟩ := h.url
    exact ⟨⟨request.method, anonymous url, client.accept,
      (credentials? url).toList ++ network.authToken.toList,
      request.body.map fun _ => jsonType, request.body.map Json.render⟩,
      prepare_eq_ok_iff.2 ⟨h, url, hurl, rfl, rfl, rfl, rfl, rfl, rfl⟩⟩

theorem transport_of_urlOf {path : String} {e : Error}
    (h : urlOf client network path = .error e) :
    ∃ reason, e = .transport reason := by
  unfold urlOf at h
  split at h
  · cases h
  · cases h
    exact ⟨_, rfl⟩

theorem transport_of_authorizationOf {e : Error} (h : authorizationOf network = .error e) :
    ∃ reason, e = .transport reason := by
  unfold authorizationOf at h
  split at h
  · cases h
  · split at h
    · cases h
    · cases h
      exact ⟨_, rfl⟩

/-- What keeps a request from being sent is a failure of transport. -/
theorem prepare_of_not_sendable (h : ¬Sendable client network request) :
    ∃ reason, prepare client network request = .error (.transport reason) := by
  cases hprepare : prepare client network request with
  | ok message => exact absurd (prepare_eq_ok_iff.1 hprepare).1 h
  | error e =>
    have hreason : ∃ reason, e = .transport reason := by
      rcases bind_eq_error_iff.1 hprepare with hurl | ⟨url, -, hrest⟩
      · exact transport_of_urlOf hurl
      rcases bind_eq_error_iff.1 hrest with hauthorization | ⟨authorization, -, hrest⟩
      · exact transport_of_authorizationOf hauthorization
      split at hrest
      · cases hrest
      · cases hrest
        exact ⟨_, rfl⟩
    obtain ⟨reason, rfl⟩ := hreason
    exact ⟨reason, rfl⟩

/-! ### Answers and their causes -/

/-- What a whole response stands for. -/
inductive StandsFor (status : UInt16) (text : String) : Answer → Prop
  | rejection (hstatus : isSuccess status = false) :
      StandsFor status text (.error (.rejected status text))
  | nothing (hstatus : isSuccess status = true) (hblank : Blank.isBlank text = true) :
      StandsFor status text (.ok .null)
  | value {v : Json} (hstatus : isSuccess status = true) (hblank : Blank.isBlank text = false)
      (hparse : Json.parse? text = some v) : StandsFor status text (.ok v)
  | malformed {reason : String} (hstatus : isSuccess status = true)
      (hblank : Blank.isBlank text = false) (hparse : Json.parse? text = none) :
      StandsFor status text (.error (.transport reason))

theorem standsFor_answerOf (status : UInt16) (text : String) :
    StandsFor status text (answerOf status text) := by
  unfold answerOf
  cases hstatus : isSuccess status with
  | false => exact .rejection hstatus
  | true =>
    cases hblank : Blank.isBlank text with
    | true => exact .nothing hstatus hblank
    | false =>
      cases hparse : Json.parse? text with
      | some v => exact .value hstatus hblank hparse
      | none => exact .malformed hstatus hblank hparse

/-- Which deliveries of a request an answer comes from. -/
structure Contract (client : Client) (delivered : List Delivery) (answer : Answer) : Prop where
  ok_iff : ∀ v, answer = .ok v ↔ ∃ head body, delivered = [.complete head body] ∧
    isSuccess head.status = true ∧
    (Blank.isBlank (bodyText client head body) = true ∧ v = .null ∨
      Json.parse? (bodyText client head body) = some v)
  rejected_iff : ∀ status text, answer = .error (.rejected status text) ↔
    ∃ head body, delivered = [.complete head body] ∧ isSuccess head.status = false ∧
      head.status = status ∧ bodyText client head body = text
  transport_iff : (∃ reason, answer = .error (.transport reason)) ↔
    delivered = [] ∨ (∃ reason, delivered = [.failed reason]) ∨
    (∃ head, delivered = [.cutShort head]) ∨
    ∃ head body, delivered = [.complete head body] ∧ isSuccess head.status = true ∧
      Blank.isBlank (bodyText client head body) = false ∧
      Json.parse? (bodyText client head body) = none
  no_other : (∃ v, answer = .ok v) ∨ (∃ status text, answer = .error (.rejected status text)) ∨
    ∃ reason, answer = .error (.transport reason)

theorem contract_undelivered {delivered : List Delivery} (reason : String)
    (h : delivered = [] ∨ (∃ reason, delivered = [.failed reason]) ∨
      ∃ head, delivered = [.cutShort head]) :
    Contract client delivered (.error (.transport reason)) := by
  have hnone : ∀ head body, delivered ≠ [.complete head body] := by
    rintro head body rfl
    simp at h
  refine ⟨?_, ?_, ?_, .inr (.inr ⟨reason, rfl⟩)⟩
  · simp [hnone]
  · simp [hnone]
  · simpa [hnone] using h

theorem contract_complete {head : Head} {body : List UInt8} {answer : Answer}
    (h : StandsFor head.status (bodyText client head body) answer) :
    Contract client [.complete head body] answer := by
  cases h with
  | rejection hstatus =>
    refine ⟨?_, ?_, ?_, .inr (.inl ⟨_, _, rfl⟩)⟩
    · simp [hstatus]
    · simp [hstatus]
    · simp [hstatus]
  | nothing hstatus hblank =>
    have hparse := Json.parse?_of_isBlank hblank
    refine ⟨?_, ?_, ?_, .inl ⟨_, rfl⟩⟩
    · simp [hstatus, hblank, hparse, @eq_comm _ Json.null]
    · simp [hstatus]
    · simp [hblank]
  | value hstatus hblank hparse =>
    refine ⟨?_, ?_, ?_, .inl ⟨_, rfl⟩⟩
    · simp [hstatus, hblank, hparse]
    · simp [hstatus]
    · simp [hparse]
  | malformed hstatus hblank hparse =>
    refine ⟨?_, ?_, ?_, .inr (.inr ⟨_, rfl⟩)⟩
    · simp [hblank, hparse]
    · simp [hstatus]
    · simp [hstatus, hblank, hparse]

theorem contract_unpack (request : Request) (delivery : Delivery) :
    Contract client [delivery] (unpack client request delivery) := by
  cases delivery with
  | failed reason => exact contract_undelivered _ (.inr (.inl ⟨reason, rfl⟩))
  | cutShort head => exact contract_undelivered _ (.inr (.inr ⟨head, rfl⟩))
  | complete head body => exact contract_complete (standsFor_answerOf head.status _)

/-! ### Transports -/

variable {σ : Type}

theorem transport_of_prepare {message : Message}
    (h : prepare client network request = .ok message) (exchange : Exchange σ) (s : σ) :
    transport client exchange network request s =
      (unpack client request (exchange message s).1, (exchange message s).2) := by
  simp only [transport, h]

theorem transport_of_unprepared {e : Error} (h : prepare client network request = .error e)
    (exchange : Exchange σ) (s : σ) :
    transport client exchange network request s = (.error e, s) := by
  simp only [transport, h]

/-- **A message that was put together is handed over, once.** -/
theorem recorded_of_prepare {message : Message}
    (h : prepare client network request = .ok message) (exchange : Exchange σ) (s : σ)
    (sent : List (Message × Delivery)) :
    transport client exchange.recorded network request (s, sent) =
      (unpack client request (exchange message s).1, (exchange message s).2,
        sent ++ [(message, (exchange message s).1)]) :=
  transport_of_prepare h exchange.recorded (s, sent)

theorem conveys_of_mem_sent {exchange : Exchange σ} {s : σ} {message : Message}
    {delivery : Delivery}
    (h : (message, delivery) ∈ (transport client exchange.recorded network request (s, [])).2.2) :
    Conveys client network request message := by
  cases hprepare : prepare client network request with
  | error e =>
    rw [transport_of_unprepared hprepare] at h
    cases h
  | ok prepared =>
    rw [recorded_of_prepare hprepare, List.nil_append, List.mem_singleton, Prod.mk.injEq] at h
    rw [h.1]
    exact (prepare_eq_ok_iff.1 hprepare).2

/-- **The wire carries the trail of the message that was put together.** -/
theorem recorded_following_of_prepare {message : Message}
    (h : prepare client network request = .ok message) (wire : Exchange σ) (s : σ)
    (sent : List (Message × Delivery)) :
    transport client (wire.recorded.following client) network request (s, sent) =
      ((transport client (wire.following client) network request s).1,
        (transport client (wire.following client) network request s).2,
        sent ++ Exchange.trail client wire client.redirects message s) := by
  rw [transport_of_prepare h, transport_of_prepare h, Exchange.following, Exchange.following,
    hops_recorded]

/-- The text that a body has, and what of it is read as JSON. -/
structure ReadsBodies (client : Client) : Prop where
  faithful : Faithful client.legacy fun charset body =>
    bodyText client ⟨200, charset, none⟩ body
  /-- Nothing but the octets and the character set has a part in it. -/
  bodyText_eq : ∀ head body,
    bodyText client head body = bodyText client ⟨200, head.charset, none⟩ body
  depth_le : ∀ text v, Json.parse? text = some v → v.depth ≤ Json.Parser.maxDepth
  parse?_render : ∀ v : Json, v.Portable Json.Parser.maxDepth → Json.parse? v.render = some v
  parse?_render_eq_none : ∀ v : Json, v.WellFormed → Json.Parser.maxDepth < v.depth →
    Json.parse? v.render = none

theorem readsBodies (client : Client) : ReadsBodies client where
  faithful := faithful_decodeAs client.legacy
  bodyText_eq _ _ := rfl
  depth_le _ _ h := Json.depth_le_of_parse? h
  parse?_render _ h := Json.parse?_render h
  parse?_render_eq_none _ h := Json.parse?_render_eq_none h

/-- What the wire carried for a request, and what it was answered. -/
structure Carried (client : Client) (network : Network) (request : Request) (wire : Exchange σ)
    (s : σ) (entries : List (Message × Delivery)) (outcome : Answer × σ) : Prop where
  empty_iff : entries = [] ↔ ¬Sendable client network request
  unsent : entries = [] → Contract client [] outcome.1 ∧ outcome.2 = s
  first : ∀ message delivery, entries.head? = some (message, delivery) →
    Conveys client network request message ∧ (wire message s).1 = delivery
  /-- Where the response does not send the client on, no other message goes over the wire, and
      what was delivered decides the answer. -/
  direct : ∀ message delivery, entries.head? = some (message, delivery) →
    client.next? message delivery = none →
    entries = [(message, delivery)] ∧ outcome.2 = (wire message s).2 ∧
      Contract client [delivery] outcome.1

theorem carried_of_prepare {message : Message}
    (h : prepare client network request = .ok message) (wire : Exchange σ) (s : σ) :
    Carried client network request wire s
      (Exchange.trail client wire client.redirects message s)
      (transport client (wire.following client) network request s) := by
  obtain ⟨hsendable, hconveys⟩ := prepare_eq_ok_iff.1 h
  have hhead := head?_trail client wire client.redirects message s
  have hne : Exchange.trail client wire client.redirects message s ≠ [] := by
    intro hempty
    rw [hempty] at hhead
    cases hhead
  refine ⟨⟨fun hempty => absurd hempty hne, fun hnot => absurd hsendable hnot⟩,
    fun hempty => absurd hempty hne, ?_, ?_⟩
  · intro message' delivery hfirst
    rw [hhead] at hfirst
    cases hfirst
    exact ⟨hconveys, rfl⟩
  · intro message' delivery hfirst hfinal
    rw [hhead] at hfirst
    cases hfirst
    obtain ⟨hhops, htrail⟩ := hops_of_final wire hfinal client.redirects
    rw [transport_of_prepare h, Exchange.following, hhops]
    exact ⟨htrail, rfl, contract_unpack request _⟩

theorem carried_of_unprepared (hsendable : ¬Sendable client network request) {reason : String}
    (h : prepare client network request = .error (.transport reason)) (wire : Exchange σ) (s : σ) :
    Carried client network request wire s []
      (transport client (wire.following client) network request s) := by
  rw [transport_of_unprepared h]
  refine ⟨⟨fun _ => hsendable, fun _ => rfl⟩, fun _ => ⟨?_, rfl⟩, ?_, ?_⟩
  · exact contract_undelivered reason (.inl rfl)
  · intro message delivery hfirst
    cases hfirst
  · intro message delivery hfirst
    cases hfirst

/-- **A transport over HTTP hands a request over if it can be sent, and sends nothing if it
    cannot.  Where the client is not sent on, it sends once, and what was delivered decides
    the answer.** -/
theorem transport_keeps_contract (client : Client) (wire : Exchange σ) (network : Network)
    (request : Request) (s : σ) (sent : List (Message × Delivery)) :
    let outcome := transport client (wire.following client) network request s
    (∃ entries,
      transport client (wire.recorded.following client) network request (s, sent) =
        (outcome.1, outcome.2, sent ++ entries) ∧
      Carried client network request wire s entries outcome) ∧
    ReadsBodies client := by
  intro outcome
  refine ⟨?_, readsBodies client⟩
  by_cases h : Sendable client network request
  · obtain ⟨message, hprepare⟩ := exists_prepare_iff.2 h
    exact ⟨_, recorded_following_of_prepare hprepare wire s sent,
      carried_of_prepare hprepare wire s⟩
  · obtain ⟨reason, hprepare⟩ := prepare_of_not_sendable h
    refine ⟨[], ?_, carried_of_unprepared h hprepare wire s⟩
    have houtcome : outcome = _ := transport_of_unprepared hprepare (wire.following client) s
    rw [houtcome, List.append_nil]
    exact transport_of_unprepared hprepare _ (s, sent)

/-- Nothing but a mark and a blank, with a status of success: the value is `null`.  The user
    of the base URL goes out in front of the token. -/
theorem transport_keeps_contract_blank :
    let network := (Network.new "testnet" "http://u:p@ledger/").withToken "Bearer T"
    let request : Request := ⟨.delete, "/a", none⟩
    let delivery : Delivery := .complete (.plain 202) [0xEF, 0xBB, 0xBF, 0x20]
    let wire : Exchange Unit := fun _ s => (delivery, s)
    let client : Client := .json .plain
    let outcome := transport client (wire.recorded.following client) network request ((), [])
    outcome.1 = .ok .null ∧ ∃ message, outcome.2.2 = [(message, delivery)] ∧
      message.authorization = ["Basic dTpw", "Bearer T"] := by
  intro network request delivery wire client outcome
  have hparse : Url.parse client.idna (trimBase network.baseUrl ++ request.path) =
      .ok ⟨"http", some (.domain "ledger"), none, "/a", none, ⟨"u", some "p"⟩⟩ :=
    toOption_eq_some_iff.1 (by decide +kernel)
  have hsendable : Sendable client network request := by
    refine ⟨⟨_, hparse, .inl rfl⟩, ?_⟩
    intro token htoken
    cases htoken
    decide
  obtain ⟨⟨entries, hrecorded, hcarried⟩, -⟩ :=
    transport_keeps_contract client wire network request () []
  cases entries with
  | nil => exact absurd hsendable (hcarried.empty_iff.1 rfl)
  | cons entry rest =>
    obtain ⟨message, delivery'⟩ := entry
    obtain ⟨⟨url, hurl, hmessage⟩, hwire⟩ := hcarried.first message delivery' rfl
    obtain rfl : delivery = delivery' := hwire
    obtain ⟨hentries, -, hcontract⟩ := hcarried.direct message delivery rfl rfl
    have hblank : Blank.isBlank (bodyText (.json .plain) (.plain 202)
        [0xEF, 0xBB, 0xBF, 0x20]) = true := by decide
    have hnull := (hcontract.ok_iff .null).2 ⟨.plain 202, _, rfl, rfl, .inl ⟨hblank, rfl⟩⟩
    have hauthorization := hmessage.authorization_eq
    rw [hparse, Except.ok.injEq] at hurl
    rw [← hurl] at hauthorization
    rw [hentries] at hrecorded
    -- the outcome is known by now, so there is no need to compute it
    generalize transport client (wire.following client) network request () = known
      at hrecorded hnull
    have houtcome : outcome = (known.1, known.2, [(message, delivery)]) := hrecorded
    rw [houtcome]
    exact ⟨hnull, message, rfl, hauthorization⟩

/-- A response with the text of a value is answered as the text is read. -/
theorem unpack_render (client : Client) (request : Request) (v : Json) :
    unpack client request (.complete (.plain 200) (Utf8.encode v.render)) =
      answerOf 200 v.render := by
  have htext : bodyText client (.plain 200) (Utf8.encode v.render) = v.render :=
    bodyText_encode client names_none (head_render_ne_mark v)
  rw [unpack, htext]
  rfl

/-- A value that is nested too deep is no answer, though it is JSON; and a response that
    refers to another place is no rejection, and not the end. -/
theorem not_single_nor_whole :
    let network := Network.new "testnet" "http://ledger"
    let request : Request := ⟨.get, "/a", none⟩
    let client : Client := .json .plain
    let deep : Exchange Unit := fun _ s =>
      (.complete (.plain 200) (Utf8.encode (Json.nested 128).render), s)
    let elsewhere : Exchange Unit := fun message s =>
      (if message.url.path = "/a" then .complete ⟨307, none, some "http://other/b"⟩ []
        else .complete (.plain 200) (Utf8.encode (Json.array []).render), s)
    (∃ reason, (transport client (deep.following client) network request ()).1 =
      .error (.transport reason)) ∧
    (transport client (elsewhere.following client) network request ()).1 = .ok (.array []) ∧
    (transport client (elsewhere.recorded.following client) network request
      ((), [])).2.2.length = 2 := by
  have hdeep : Json.Parser.maxDepth < (Json.nested 128).depth := by
    rw [Json.depth_nested]
    decide
  have hnone := Json.parse?_render_eq_none (Json.wellFormed_nested 128) hdeep
  generalize Json.nested 128 = v at hnone
  intro network request client deep elsewhere
  let ledger : Url := ⟨"http", some (.domain "ledger"), none, "/a", none, .nobody⟩
  let other : Url := ⟨"http", some (.domain "other"), none, "/b", none, .nobody⟩
  have hparse : Url.parse client.idna (trimBase network.baseUrl ++ request.path) = .ok ledger :=
    toOption_eq_some_iff.1 (by decide +kernel)
  have hjoin : client.join ledger "http://other/b" = some other := by decide +kernel
  let message : Message := ⟨.get, ledger, "application/json", [], none, none⟩
  have htoken : ∀ token, network.authToken = some token → isHeaderValue token = true := by
    intro token htoken
    cases htoken
  have hprepare : prepare client network request = .ok message :=
    prepare_eq_ok_iff.2 ⟨⟨⟨ledger, hparse, .inl rfl⟩, htoken⟩, ledger, hparse, rfl, rfl, rfl, rfl,
      rfl, rfl⟩
  constructor
  · have hdeep : deep.following client = deep :=
      following_eq_self fun _ _ => next?_eq_none fun _ h => by cases h; rfl
    rw [hdeep, transport_of_prepare hprepare, unpack_render]
    exact ⟨_, by simp only [answerOf, isBlank_render, hnone]; rfl⟩
  · have hnext : client.next? message (elsewhere message ()).1 = some (message.moveTo other) :=
      next?_eq_some_iff.2 ⟨⟨307, none, some "http://other/b"⟩, .again, _, other, rfl, rfl, rfl,
        hjoin, rfl⟩
    have hreply : (elsewhere (message.moveTo other) ()).1 =
        .complete (.plain 200) (Utf8.encode (Json.array []).render) := rfl
    have hlast : client.next? (message.moveTo other)
        (elsewhere (message.moveTo other) ()).1 = none := next?_eq_none fun _ h => by cases h; rfl
    obtain ⟨hhops, htrail⟩ := hops_of_next elsewhere hnext 8
    obtain ⟨hend, hdone⟩ := hops_of_final elsewhere hlast 8
    have hredirects : client.redirects = 8 + 1 := rfl
    constructor
    · rw [transport_of_prepare hprepare, Exchange.following, hredirects, hhops, hend, hreply,
        unpack_render]
      have hsuccess : isSuccess 200 = true := by decide
      have hempty : (Json.array []).Portable Json.Parser.maxDepth :=
        Json.portable_array fun _ he => absurd he List.not_mem_nil
      exact answerOf_render hsuccess hempty
    · rw [recorded_following_of_prepare hprepare, hredirects, htrail, hdone]
      rfl

end DidLedger.Http
