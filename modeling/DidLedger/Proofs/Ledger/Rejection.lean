/-
  DidLedger/Proofs/Ledger/Rejection.lean
  ======================================
  What a server that asks for a token says to a request, by what the request presents.

  A client sends the user of the base URL first, if there is one, and the token of the
  network behind it, both as they are.  What is plain arrives as it was sent, and the server
  compares the first text with its own (`authorizes_iff`).  A request with the right one is
  answered as if none were asked for (`transport_admitted`).  Any other request is turned
  away before the ledger is looked at, and what it is told follows from the request alone
  (`transport_turned`): that it has no right, unless its body was not even taken in
  (`Told`), because the body is read before the authorization.
-/
import DidLedger.Proofs.Http.Contract
import DidLedger.Proofs.Ledger.Emulation

namespace DidLedger

open DidLedger.Ledger DidLedger.Text DidLedger.Url

namespace Ledger.Server

/-! ### Tokens -/

/-- A token of printable ASCII that neither begins nor ends with a space. -/
structure PlainToken (token : String) : Prop where
  printable : ∀ c ∈ token.toList, 0x20 ≤ c.toNat ∧ c.toNat < 0x7F
  head_ne : token.toList.head? ≠ some ' '
  last_ne : token.toList.getLast? ≠ some ' '

theorem received_of_plainToken {token : String} (h : PlainToken token) :
    received token = token := by
  have hedge : ∀ c ∈ token.toList, c ≠ ' ' → (c == ' ' || c == '\t') = false := by
    intro c hc hspace
    have htab : c ≠ '\t' := by
      rintro rfl
      exact absurd (h.printable _ hc).1 (by decide)
    simp [hspace, htab]
  have hfront : ∀ c ∈ token.toList.head?, (c == ' ' || c == '\t') = false := by
    intro c hc
    apply hedge c (List.mem_of_mem_head? hc)
    rintro rfl
    exact h.head_ne hc
  have hback : ∀ c ∈ token.toList.reverse.head?, (c == ' ' || c == '\t') = false := by
    intro c hc
    rw [List.head?_reverse] at hc
    apply hedge c (List.mem_of_getLast? hc)
    rintro rfl
    exact h.last_ne hc
  simp only [received]
  rw [dropWhile_of_head hfront, dropWhile_of_head hback, List.reverse_reverse,
    String.ofList_toList]

theorem isVisible_of_plainToken {token : String} (h : PlainToken token) :
    isVisible token = true := by
  rw [isVisible, List.all_eq_true]
  intro c hc
  simp [h.printable c hc]

theorem isHeaderValue_of_plainToken {token : String} (h : PlainToken token) :
    Http.isHeaderValue token = true := by
  rw [Http.isHeaderValue, List.all_eq_true]
  intro c hc
  obtain ⟨hlow, hhigh⟩ := h.printable c hc
  have hdelete : c ≠ '\x7f' := by
    rintro rfl
    exact absurd hhigh (by decide)
  simp [hlow, hdelete]

/-- What stands for a user is plain, whatever the user is called. -/
theorem plainToken_of_credentials? {url : Url} {value : String}
    (h : Http.credentials? url = some value) : PlainToken value := by
  have hvalue : ∃ name password, value = "Basic " ++ Base64.encode (Utf8.encode
      (name ++ ":" ++ password)) := by
    simp only [Http.credentials?, Option.bind_eq_bind, Option.bind_eq_some_iff] at h
    obtain ⟨name, -, h⟩ := h
    split at h
    · cases h
    · cases h
      exact ⟨name, _, rfl⟩
  obtain ⟨name, password, rfl⟩ := hvalue
  have hbytes : Utf8.encode (name ++ ":" ++ password) ≠ [] := by
    intro hempty
    have hcolon : ':' ∈ (name ++ ":" ++ password).toList := by simp
    exact absurd (List.flatMap_eq_nil_iff.1 hempty ':' hcolon) (by decide)
  have hletters : ∀ c ∈ '=' :: Base64.alphabet,
      (decide (0x20 < c.toNat) && decide (c.toNat < 0x7F)) = true :=
    List.all_eq_true.1 (by decide)
  have hlead : ∀ c ∈ "Basic ".toList,
      (decide (0x20 ≤ c.toNat) && decide (c.toNat < 0x7F)) = true :=
    List.all_eq_true.1 (by decide)
  simp only [Bool.and_eq_true, decide_eq_true_eq] at hletters hlead
  have htext : ("Basic " ++ Base64.encode (Utf8.encode (name ++ ":" ++ password))).toList =
      "Basic ".toList ++ Base64.encodeChars (Utf8.encode (name ++ ":" ++ password)) := by
    rw [String.toList_append]
    exact congrArg ("Basic ".toList ++ ·) String.toList_ofList
  refine ⟨?_, ?_, ?_⟩
  · intro c hc
    rw [htext] at hc
    rcases List.mem_append.1 hc with hc | hc
    · exact hlead c hc
    · have hbounds := hletters c (Base64.mem_of_mem_encodeChars hc)
      exact ⟨Nat.le_of_lt hbounds.1, hbounds.2⟩
  · rw [htext]
    exact (by decide : some 'B' ≠ some ' ')
  · rw [htext, List.getLast?_append_of_ne_nil _ (Base64.encodeChars_ne_nil hbytes)]
    intro hlast
    exact absurd (hletters ' ' (Base64.mem_of_mem_encodeChars (List.mem_of_getLast? hlast))).1
      (by decide)

/-- **A server is sent the text that it asks for, or it is not.** -/
theorem authorizes_iff {door : Server} {token : String} (hasked : door.token = some token)
    {m : Http.Message} (hm : ∀ value ∈ m.authorization.head?, PlainToken value) :
    door.authorizes m = true ↔ m.authorization.head? = some token := by
  unfold authorizes
  rw [hasked]
  cases hsent : m.authorization.head? with
  | none => simp
  | some value =>
    have hplain := hm value hsent
    simp only [Option.map_some, received_of_plainToken hplain, isVisible_of_plainToken hplain,
      Bool.true_and, beq_iff_eq, Option.some.injEq]

/-! ### Messages that are turned away -/

/-- What is said of a message that does not carry the right authorization. -/
def rejectionOf (door : Server) (m : Http.Message) : Rejection :=
  match Action.ofMessage door.intake m with
  | .error rejection => rejection
  | .ok _ => unauthorized

theorem answerable_rejectionOf (door : Server) (m : Http.Message) :
    Answerable (.error (door.rejectionOf m)) := by
  have hunauthorized : Answerable (.error unauthorized) := ⟨rfl, by decide⟩
  unfold rejectionOf
  cases h : Action.ofMessage door.intake m with
  | error rejection => exact answerable_of_ofMessage h
  | ok action => exact hunauthorized

theorem answer_of_not_authorizes {door : Server} {m : Http.Message}
    (h : door.authorizes m = false) (s : Store) :
    door.answer m s = (.ofRejection (door.rejectionOf m), s) := by
  unfold answer rejectionOf
  cases Action.ofMessage door.intake m with
  | error rejection => rfl
  | ok action => simp [h]

/-- The server with other answers ready. -/
def guarding (door : Server) (readBody : Option String) : Server :=
  { door with readBody }

/-- The server with other answers ready, which asks for no token. -/
def opened (door : Server) (readBody : Option String) : Server :=
  { door with readBody, token := none }

theorem answer_of_authorizes {door : Server} {m : Http.Message} (h : door.authorizes m = true)
    (readBody : Option String) (s : Store) :
    (door.guarding readBody).answer m s = (door.opened readBody).answer m s := by
  have hright : (door.guarding readBody).authorizes m = true := h
  unfold answer
  rw [hright]
  rfl

theorem isAt_anonymous (door : Server) (url : Url) :
    door.isAt (Http.anonymous url) = door.isAt url := by
  obtain ⟨user, hanonymous⟩ := Http.exists_anonymous_eq url
  rw [hanonymous]
  rfl

/-- What a request of a network is told, if it comes to the server without the right
    authorization. -/
def turning? (door : Server) (client : Http.Client) (network : Network) (r : Request) :
    Option Rejection :=
  match Http.prepare client network r with
  | .error _ => none
  | .ok m =>
    if door.isAt m.url && !door.authorizes m then some (door.rejectionOf m) else none

end Ledger.Server

section
variable {door : Server} {client : Http.Client} {network : Network} {r : Request}

open Ledger.Server

theorem turning?_eq_some_iff {rejection : Rejection} :
    door.turning? client network r = some rejection ↔
      ∃ m, Http.prepare client network r = .ok m ∧ door.isAt m.url = true ∧
        door.authorizes m = false ∧ door.rejectionOf m = rejection := by
  unfold turning?
  cases Http.prepare client network r with
  | error e => simp
  | ok m => simp [and_assoc]

/-- **Without the right authorization a request is turned away**, and nothing is done. -/
theorem transport_turned {rejection : Rejection}
    (h : door.turning? client network r = some rejection) (readBody : Option String) (s : Store) :
    Http.transport client (door.guarding readBody).exchange network r s =
      (.error (.rejected rejection.status rejection.body), s) := by
  obtain ⟨m, hprepare, hat, hwrong, rfl⟩ := turning?_eq_some_iff.1 h
  have hlacks : (door.guarding readBody).authorizes m = false := hwrong
  have hanswer : (door.guarding readBody).answer m s = (.ofRejection (door.rejectionOf m), s) :=
    answer_of_not_authorizes hlacks s
  have hexchange : (door.guarding readBody).exchange m s =
      ((Reply.ofRejection (door.rejectionOf m)).delivery, s) := by
    unfold exchange
    rw [hanswer]
    exact if_pos hat
  have hunpack : Http.unpack client r (Reply.ofRejection (door.rejectionOf m)).delivery =
      .error (.rejected (door.rejectionOf m).status (door.rejectionOf m).body) :=
    (unpack_ofResult client r (answerable_rejectionOf door m) :)
  rw [Http.transport_of_prepare hprepare, hexchange, hunpack]

/-- **With the right authorization a request is answered as if none were asked for.** -/
theorem transport_admitted (h : door.turning? client network r = none) (readBody : Option String)
    (s : Store) :
    Http.transport client (door.guarding readBody).exchange network r s =
      Http.transport client (door.opened readBody).exchange network r s := by
  cases hprepare : Http.prepare client network r with
  | error e =>
    rw [Http.transport_of_unprepared hprepare, Http.transport_of_unprepared hprepare]
  | ok m =>
    have hexchange : (door.guarding readBody).exchange m s =
        (door.opened readBody).exchange m s := by
      by_cases hat : door.isAt m.url = true
      · have hright : door.authorizes m = true := by
          by_contra hwrong
          rw [Bool.not_eq_true] at hwrong
          rw [turning?_eq_some_iff.2 ⟨m, hprepare, hat, hwrong, rfl⟩] at h
          cases h
        unfold exchange
        rw [answer_of_authorizes hright]
        rfl
      · have hguarding : ¬(door.guarding readBody).isAt m.url = true := hat
        have hopened : ¬(door.opened readBody).isAt m.url = true := hat
        unfold exchange
        rw [if_neg hguarding, if_neg hopened]
    rw [Http.transport_of_prepare hprepare, Http.transport_of_prepare hprepare, hexchange]

/-- What a network sends along with a request to a URL: what stands for the user in the URL, or
    its token if there is none. -/
def Network.presents? (network : Network) (url : Url) : Option String :=
  (Http.credentials? url).or network.authToken

theorem presents?_of_nobody {url : Url} (h : url.user = .nobody) :
    network.presents? url = network.authToken := by
  have hnobody : Http.credentials? url = none := by
    unfold Http.credentials?
    rw [h]
    rfl
  rw [Network.presents?, hnobody, Option.none_or]

/-- **A request is turned away when it comes to the server and something else, or nothing, is
    presented.** -/
theorem isSome_turning?_iff {token : String} (hasked : door.token = some token)
    (hnetwork : ∀ value, network.authToken = some value → PlainToken value) :
    (door.turning? client network r).isSome = true ↔
      ∃ url, Http.urlOf client network r.path = .ok url ∧ door.isAt url = true ∧
        network.presents? url ≠ some token := by
  have hauthorizes : ∀ {url : Url} {m : Http.Message}, Http.Says client network r url m →
      (door.authorizes m = false ↔ network.presents? url ≠ some token) := by
    intro url m hmessage
    -- only the first text counts, and that is the user's where there is one
    have hhead : m.authorization.head? = network.presents? url := by
      rw [hmessage.authorization_eq, List.head?_append, Option.head?_toList, Option.head?_toList]
      rfl
    have hplain : ∀ value ∈ m.authorization.head?, PlainToken value := by
      intro value hvalue
      rw [hhead, Network.presents?, Option.mem_def, Option.or_eq_some_iff] at hvalue
      rcases hvalue with huser | ⟨-, htoken⟩
      · exact plainToken_of_credentials? huser
      · exact hnetwork value htoken
    rw [← Bool.not_eq_true, authorizes_iff hasked hplain, hhead]
  rw [Option.isSome_iff_exists]
  simp only [turning?_eq_some_iff]
  constructor
  · rintro ⟨rejection, m, hprepare, hat, hwrong, rfl⟩
    obtain ⟨url, hurl, hmessage⟩ := (Http.prepare_eq_ok_iff.1 hprepare).2
    rw [hmessage.url_eq, isAt_anonymous] at hat
    exact ⟨url, Http.urlOf_eq_ok_iff.2 hurl, hat, (hauthorizes hmessage).1 hwrong⟩
  · rintro ⟨url, hurl, hat, hpresents⟩
    have hscheme : url.scheme = "http" := by
      simp only [isAt, Bool.and_eq_true, beq_iff_eq] at hat
      exact hat.1.1
    rw [Http.urlOf_eq_ok_iff] at hurl
    obtain ⟨m, hprepare⟩ := Http.exists_prepare_iff.2
      ⟨⟨url, hurl, .inl hscheme⟩, fun value h => isHeaderValue_of_plainToken (hnetwork value h)⟩
    obtain ⟨url', hurl', hmessage⟩ := (Http.prepare_eq_ok_iff.1 hprepare).2
    rw [hurl, Except.ok.injEq] at hurl'
    subst hurl'
    refine ⟨_, m, hprepare, ?_, (hauthorizes hmessage).2 hpresents, rfl⟩
    rw [hmessage.url_eq, isAt_anonymous]
    exact hat

end

/-! ### What is told -/

/-- What a request is told without the right authorization, where its path is found.  A body is
    taken in first. -/
inductive Ledger.Told (intake : Intake) (r : Request) : Rejection → Prop
  | unauthorized (h : ∀ v, r.body = some v → intake.fits v.render = true ∧
      (Json.parse? v.render).isSome = true) : Told intake r Server.unauthorized
  | tooLarge {v : Json} (hbody : r.body = some v) (h : intake.fits v.render = false) :
      Told intake r Ledger.tooLarge
  | notJson {v : Json} (hbody : r.body = some v) (hfits : intake.fits v.render = true)
      (h : Json.parse? v.render = none) : Told intake r (Ledger.notJson (intake.complaint v.render))

variable {registry : Registry}

theorem told_write (door : Server) (route : WriteRoute) {v : Json} {m : Http.Message}
    (hm : Bears m ⟨.post, route.path, some v⟩) :
    Told door.intake ⟨.post, route.path, some v⟩ (door.rejectionOf m) := by
  rw [Server.rejectionOf, ofMessage_write door.intake route hm, Intake.read]
  cases hfits : door.intake.fits v.render with
  | false => exact .tooLarge rfl hfits
  | true =>
    cases hparse : Json.parse? v.render with
    | none => exact .notJson rfl hfits hparse
    | some w =>
      refine .unauthorized fun v' hv' => ?_
      cases hv'
      exact ⟨hfits, by rw [hparse, Option.isSome_some]⟩

theorem told_of_action {door : Server} {r : Request} {m : Http.Message} {action : Action}
    (h : Action.ofMessage door.intake m = .ok action) (hbody : r.body = none) :
    Told door.intake r (door.rejectionOf m) := by
  rw [Server.rejectionOf, h]
  refine .unauthorized fun v hv => ?_
  rw [hbody] at hv
  cases hv

/-- Every request of an operation is found, whatever becomes of its body. -/
theorem told_of_asks (door : Server) {op : Operation} {errand : Errand}
    (h : registry.Asks op errand) {m : Http.Message} (hm : Bears m errand.request) :
    Told door.intake errand.request (door.rejectionOf m) := by
  cases h with
  | create _ => exact told_write door .create hm
  | resolve hlocate =>
    exact told_of_action (ofMessage_read _ _ (Registry.locate_eq_ok_iff.1 hlocate).1 hm) rfl
  | update _ _ => exact told_write door .update hm
  | deactivate hlocate =>
    exact told_of_action (ofMessage_delete _ _ (Registry.locate_eq_ok_iff.1 hlocate).1 hm) rfl
  | registerSchema _ => exact told_write door .create hm
  | registerDefinition _ => exact told_write door .create hm

theorem plainPath_of_asks {op : Operation} {errand : Errand} (h : registry.Asks op errand) :
    ∃ first others, PlainPath errand.request.path first others := by
  cases h with
  | create _ => exact ⟨_, _, plainPath_createPath⟩
  | resolve hlocate =>
    exact ⟨_, _, plainPath_readPath (Registry.locate_eq_ok_iff.1 hlocate).1 .nym⟩
  | update _ _ => exact ⟨_, _, plainPath_updatePath⟩
  | deactivate hlocate =>
    exact ⟨_, _, plainPath_deletePath (Registry.locate_eq_ok_iff.1 hlocate).1⟩
  | registerSchema _ => exact ⟨_, _, plainPath_createPath⟩
  | registerDefinition _ => exact ⟨_, _, plainPath_createPath⟩

/-- Whether a server can read the body of an operation.  Key material stands inside four
    objects. -/
def Operation.Sendable : Operation → Prop
  | .registerDefinition d =>
    d.value.primary.Readable (Json.Parser.maxDepth - 4) ∧
      (d.value.revocation.getD .null).Readable (Json.Parser.maxDepth - 4)
  | _ => True

theorem readable_of_asks {op : Operation} (hop : op.Sendable) {errand : Errand}
    (h : registry.Asks op errand) {v : Json} (hv : errand.request.body = some v) :
    v.Readable Json.Parser.maxDepth := by
  cases h with
  | create _ =>
    cases hv
    exact (portable_createBody (portable_nym _ _ _)).readable
  | resolve _ => cases hv
  | update _ _ =>
    cases hv
    exact (portable_updateBody (portable_nym _ _ _) _).readable
  | deactivate _ => cases hv
  | registerSchema _ =>
    cases hv
    exact (portable_createBody (portable_schema _ _ _)).readable
  | registerDefinition _ =>
    cases hv
    exact readable_createBody (readable_definition hop.1 hop.2 _)

/-! ### Networks that point at a server -/

/-- A network under whose base URL plain paths come to the server as they are written. -/
def Ledger.Server.PointedAt (door : Server) (client : Http.Client) (network : Network) : Prop :=
  ∀ path first others, PlainPath path first others →
    ∃ url, Http.urlOf client network path = .ok url ∧ door.isAt url = true ∧ url.path = path

/-- **The URL of a server points at it**, with any number of slashes behind and with any user
    in front of the host. -/
theorem pointedAt_of_authority {door : Server} {port : UInt16}
    (hhost : door.host = Server.loopback) (hport : door.port = port.toNat)
    (client : Http.Client) {network : Network} {authority : List Char}
    (hafter : (afterUser authority).1 = Server.authorityAt port)
    (hchars : ∀ c ∈ authority, isAddressChar c = true ∧ isSlash true c = false) {slashes : Nat}
    (hbase : network.baseUrl = String.ofList ("http://".toList ++ authority) ++
      String.ofList (List.replicate slashes '/')) : door.PointedAt client network := by
  intro path first others hpath
  exact ⟨_, urlOf_of_authority hafter hchars hbase client hpath,
    Server.isAt_urlTo hhost hport path _, rfl⟩

theorem pointedAt_of_isBase {door : Server} {port : UInt16} (hhost : door.host = Server.loopback)
    (hport : door.port = port.toNat) (client : Http.Client) {network : Network}
    (hbase : Server.IsBase port network.baseUrl) : door.PointedAt client network := by
  intro path first others hpath
  exact ⟨_, urlOf_of_isBase hbase client hpath, Server.isAt_urlTo hhost hport path _, rfl⟩

theorem told_of_pointedAt {door : Server} {client : Http.Client} {op : Operation} {errand : Errand}
    (hpoints : door.PointedAt client errand.network) (hasks : registry.Asks op errand)
    {rejection : Rejection}
    (h : door.turning? client errand.network errand.request = some rejection) :
    Told door.intake errand.request rejection := by
  obtain ⟨m, hprepare, -, -, rfl⟩ := turning?_eq_some_iff.1 h
  obtain ⟨url, hurl, hmessage⟩ := (Http.prepare_eq_ok_iff.1 hprepare).2
  obtain ⟨first, others, hpath⟩ := plainPath_of_asks hasks
  obtain ⟨url', hurl', -, hwritten⟩ := hpoints _ _ _ hpath
  rw [Http.urlOf_eq_ok_iff, hurl, Except.ok.injEq] at hurl'
  subst hurl'
  -- the user is taken out of the URL, which leaves its path
  refine told_of_asks door hasks ⟨hmessage.method_eq, ?_, hmessage.contentType_eq, hmessage.body_eq⟩
  obtain ⟨nobody, hanonymous⟩ := Http.exists_anonymous_eq url
  rw [hmessage.url_eq, hanonymous]
  exact hwritten

end DidLedger
