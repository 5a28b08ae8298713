/-
  DidLedger/Proofs/Ledger/Authorization.lean
  ==========================================
  **A server that asks for a token is closed to those who do not send it, and open
  to those who do.**

  An operation makes one request, and what a server says to it is known
  (`Proofs/Ledger/Rejection.lean`).  A run of operations over networks of both kinds is a run
  without a token in which some operations are passed over (`runAll_guarded`).  What these
  are told is the server's refusal wherever a body can be read; key material that is nested
  too deep is complained about first (`run_of_deep`).
-/
import DidLedger.Proofs.Json.Depth
import DidLedger.Proofs.Ledger.Rejection

namespace DidLedger

open DidLedger.Ledger DidLedger.Text DidLedger.Url DidLedger.Credential

variable {registry : Registry}

/-! ### Runs -/

/-- The request that an operation makes, if it makes one. -/
def Registry.errand? (registry : Registry) (op : Operation) : Option Errand :=
  (registry.course op).errands.head?

/-- The report on an operation that a server turns away. -/
def Registry.refusal? (registry : Registry) (client : Http.Client) (door : Server)
    (op : Operation) : Option Report :=
  match registry.course op with
  | .ended _ => none
  | .asking errand conclude =>
    (door.turning? client errand.network errand.request).map fun rejection =>
      conclude (.error (.rejected rejection.status rejection.body))

/-- The report on an operation that fails with a sentence. -/
def Operation.failing (message : String) : Operation → Report
  | .create _ => .created (.failed message)
  | .resolve did => .resolved (.notFound s!"DID not found: {did}: {message}")
  | .update _ _ => .updated (.failed message)
  | .deactivate _ => .deactivated (.failed message)
  | .registerSchema _ => .schemaRegistered (.failed message)
  | .registerDefinition _ => .definitionRegistered (.failed message)
  | .getSchema _ => .schemaRead (.failed message)
  | .getDefinition _ => .definitionRead (.failed message)

theorem conclude_error {op : Operation} {errand : Errand} {conclude : Answer → Report}
    (hcourse : registry.course op = .asking errand conclude) (e : Error) :
    conclude (.error e) = op.failing e.message := by
  cases op with
  | create o => exact Course.conclude_error_of_ofWrite hcourse e
  | resolve did => exact Course.conclude_error_of_ofRead hcourse e
  | update did fields => exact Course.conclude_error_of_ofWrite hcourse e
  | deactivate did => exact Course.conclude_error_of_ofWrite hcourse e
  | registerSchema schema => exact Course.conclude_error_of_ofWrite hcourse e
  | registerDefinition d => exact Course.conclude_error_of_ofWrite hcourse e
  | getSchema schemaId => cases hcourse
  | getDefinition definitionId => cases hcourse

namespace Registry

variable {client : Http.Client} {door : Server} {op : Operation}

theorem refusal?_eq_some_iff {report : Report} :
    registry.refusal? client door op = some report ↔
      ∃ errand rejection, registry.errand? op = some errand ∧
        door.turning? client errand.network errand.request = some rejection ∧
        op.failing (Error.rejected rejection.status rejection.body).message = report := by
  unfold refusal? errand?
  cases hcourse : registry.course op with
  | ended other => simp [Course.errands]
  | asking errand conclude => simp [Course.errands, conclude_error hcourse]

theorem errand?_eq_some_iff {errand : Errand} :
    registry.errand? op = some errand ↔ ∃ conclude, registry.course op = .asking errand conclude := by
  unfold errand?
  cases registry.course op with
  | ended report => simp [Course.errands]
  | asking errand' conclude => simp [Course.errands]

/-- **An operation is turned away when its request comes to the server and does not present the
    token.** -/
theorem isSome_refusal?_iff {token : String} (hasked : door.token = some token)
    (hnetworks : ∀ network ∈ registry.networks,
      ∀ value, network.authToken = some value → Server.PlainToken value) :
    (registry.refusal? client door op).isSome = true ↔
      ∃ errand url, registry.errand? op = some errand ∧
        Http.urlOf client errand.network errand.request.path = .ok url ∧
        door.isAt url = true ∧ errand.network.presents? url ≠ some token := by
  have hturning : ∀ errand, registry.errand? op = some errand →
      ((door.turning? client errand.network errand.request).isSome = true ↔
        ∃ url, Http.urlOf client errand.network errand.request.path = .ok url ∧
          door.isAt url = true ∧ errand.network.presents? url ≠ some token) := by
    intro errand herrand
    obtain ⟨conclude, hcourse⟩ := errand?_eq_some_iff.1 herrand
    exact isSome_turning?_iff hasked (hnetworks _ (asks_of_course hcourse).mem_networks)
  rw [Option.isSome_iff_exists]
  constructor
  · rintro ⟨report, hreport⟩
    obtain ⟨errand, rejection, herrand, hrejection, -⟩ := refusal?_eq_some_iff.1 hreport
    obtain ⟨url, hurl⟩ := (hturning errand herrand).1 (Option.isSome_of_eq_some hrejection)
    exact ⟨errand, url, herrand, hurl⟩
  · rintro ⟨errand, url, herrand, hurl⟩
    obtain ⟨rejection, hrejection⟩ :=
      Option.isSome_iff_exists.1 ((hturning errand herrand).2 ⟨url, hurl⟩)
    exact ⟨_, refusal?_eq_some_iff.2 ⟨errand, rejection, herrand, hrejection, rfl⟩⟩

end Registry

/-- Runs operations, but passes over those for which a report is given. -/
def Service.sparing {σ : Type} (service : Service σ) (given? : Operation → Option Report) (s : σ) :
    List Operation → List Report × σ
  | [] => ([], s)
  | op :: ops =>
    let (report, s) := match given? op with
      | some report => (report, s)
      | none => service.run s op
    let (reports, s) := service.sparing given? s ops
    (report :: reports, s)

/-- A service that turns operations away, and does with the others what another one
    does. -/
theorem Service.runAll_eq_sparing {σ : Type} {guarded opened : Service σ}
    {given? : Operation → Option Report}
    (hgiven : ∀ s op report, given? op = some report → guarded.run s op = (report, s))
    (hother : ∀ s op, given? op = none → guarded.run s op = opened.run s op) (s : σ)
    (ops : List Operation) : guarded.runAll s ops = opened.sparing given? s ops := by
  induction ops generalizing s with
  | nil => rfl
  | cons op ops ih =>
    rw [runAll, sparing]
    cases hop : given? op with
    | some report => simp only [hgiven s op report hop, ih]
    | none => simp only [hother s op hop, ih]

section
variable {client : Http.Client} {door : Server} {op : Operation}

theorem run_of_refusal? {report : Report} (h : registry.refusal? client door op = some report)
    (readBody : Option String) (s : Store) :
    Service.run ⟨registry, Http.transport client (door.guarding readBody).exchange⟩ s op =
      (report, s) := by
  obtain ⟨errand, rejection, herrand, hturning, rfl⟩ := Registry.refusal?_eq_some_iff.1 h
  obtain ⟨conclude, hcourse⟩ := Registry.errand?_eq_some_iff.1 herrand
  rw [Service.run_eq_follow, hcourse,
    Course.follow_asking (transport_turned hturning readBody s), conclude_error hcourse]

theorem run_of_refusal?_eq_none (h : registry.refusal? client door op = none)
    (readBody : Option String) (s : Store) :
    Service.run ⟨registry, Http.transport client (door.guarding readBody).exchange⟩ s op =
      Service.run ⟨registry, Http.transport client (door.opened readBody).exchange⟩ s op := by
  rw [Service.run_eq_follow, Service.run_eq_follow]
  cases hcourse : registry.course op with
  | ended report => simp only [Course.follow]
  | asking errand conclude =>
    -- every request that is turned away would have a report
    have hturning : door.turning? client errand.network errand.request = none := by
      rw [Option.eq_none_iff_forall_ne_some]
      intro rejection hrejection
      have hreport := Registry.refusal?_eq_some_iff.2
        ⟨errand, rejection, Registry.errand?_eq_some_iff.2 ⟨conclude, hcourse⟩, hrejection, rfl⟩
      rw [h] at hreport
      cases hreport
    simp only [Course.follow, transport_admitted hturning]

/-- What the report on an operation that is turned away says. -/
structure TurnedAway (client : Http.Client) (door : Server) (errand : Errand) (op : Operation)
    (report : Report) : Prop where
  rejected : ∃ rejection : Rejection, Http.isSuccess rejection.status = false ∧
    report = op.failing (Error.rejected rejection.status rejection.body).message
  told : door.PointedAt client errand.network →
    ∃ rejection, Told door.intake errand.request rejection ∧
      report = op.failing (Error.rejected rejection.status rejection.body).message
  unauthorized : door.PointedAt client errand.network → op.Sendable →
    (∀ v, errand.request.body = some v → door.intake.fits v.render = true) →
    report = op.failing "Ledger returned 401: unauthorized"

/-- A body that can be read is taken in if it is not too large. -/
theorem unauthorized_of_told {intake : Intake} {errand : Errand} (hasks : registry.Asks op errand)
    (hop : op.Sendable) (hfits : ∀ v, errand.request.body = some v → intake.fits v.render = true)
    {rejection : Rejection} (h : Told intake errand.request rejection) :
    rejection = Server.unauthorized := by
  cases h with
  | unauthorized _ => rfl
  | tooLarge hbody hlarge =>
    rw [hfits _ hbody] at hlarge
    cases hlarge
  | notJson hbody _ hnone =>
    rw [Json.parse?_render_reread (readable_of_asks hop hasks hbody)] at hnone
    cases hnone

theorem turnedAway_of_refusal? {errand : Errand} (herrand : registry.errand? op = some errand)
    {report : Report} (h : registry.refusal? client door op = some report) :
    TurnedAway client door errand op report := by
  obtain ⟨errand', rejection, herrand', hturning, rfl⟩ := Registry.refusal?_eq_some_iff.1 h
  rw [herrand, Option.some.injEq] at herrand'
  subst herrand'
  obtain ⟨conclude, hcourse⟩ := Registry.errand?_eq_some_iff.1 herrand
  have hasks := Registry.asks_of_course hcourse
  refine ⟨⟨rejection, ?_, rfl⟩, fun hpoints => ⟨_, told_of_pointedAt hpoints hasks hturning, rfl⟩,
    fun hpoints hop hfits => ?_⟩
  · obtain ⟨m, -, -, -, rfl⟩ := turning?_eq_some_iff.1 hturning
    exact (Server.answerable_rejectionOf door m).1
  · rw [unauthorized_of_told hasks hop hfits (told_of_pointedAt hpoints hasks hturning)]
    rfl

end

/-- **Whoever does not send the token that a server asks for has no part in its
    ledger**, and whoever does is not held up.

    An operation whose request comes to the server without the token is turned away, and what it
    is told depends on neither the ledger nor the answers that the server has ready.  The
    others do what they do on a server that asks for no token. -/
theorem runAll_guarded (client : Http.Client) (door : Server) {token : String}
    (hasked : door.token = some token) (registry : Registry)
    (hnetworks : ∀ network ∈ registry.networks,
      ∀ value, network.authToken = some value → Server.PlainToken value) :
    (∀ (readBody : Option String) (s : Store) (ops : List Operation),
      let guarded : Service Store :=
        ⟨registry, Http.transport client (door.guarding readBody).exchange⟩
      let opened : Service Store :=
        ⟨registry, Http.transport client (door.opened readBody).exchange⟩
      guarded.runAll s ops = opened.sparing (registry.refusal? client door) s ops) ∧
    (∀ op, (registry.refusal? client door op).isSome = true ↔
      ∃ errand url, registry.errand? op = some errand ∧
        Http.urlOf client errand.network errand.request.path = .ok url ∧
        door.isAt url = true ∧ errand.network.presents? url ≠ some token) ∧
    (∀ op errand report, registry.errand? op = some errand →
      registry.refusal? client door op = some report →
      TurnedAway client door errand op report) := by
  refine ⟨?_, fun op => Registry.isSome_refusal?_iff hasked hnetworks,
    fun op errand report herrand h => turnedAway_of_refusal? herrand h⟩
  intro readBody s ops guarded opened
  apply Service.runAll_eq_sparing
  · intro s op report h
    exact run_of_refusal? h readBody s
  · intro s op h
    exact run_of_refusal?_eq_none h readBody s

/-- One network sends the token, one sends none and one names a user in front of it. -/
theorem runAll_guarded_mixed :
    let registry : Registry :=
      ⟨[(Network.new "ours" (Server.urlAt 8080)).withToken "Bearer T",
        .new "open" (Server.urlAt 8080),
        (Network.new "theirs" "http://u:p@127.0.0.1:8080/").withToken "Bearer T"]⟩
    let door : Server :=
      { Server.start 8080 (some "Bearer T") none with intake := ⟨some 2097152, fun _ => ""⟩ }
    let client : Http.Client := .json .plain
    let guarded : Service Store := ⟨registry, Http.transport client (door.guarding none).exchange⟩
    let opened : Service Store := ⟨registry, Http.transport client (door.opened none).exchange⟩
    let created := opened.run (Store.empty .reject) (.create (.new "x" "K"))
    guarded.runAll (Store.empty .reject)
        [.create (.new "x" "K"), .create ⟨"x", "K", some "open", none⟩,
          .update "did:theirs:x" .empty, .resolve "did:open:x"] =
      ([created.1, .created (.failed "Ledger returned 401: unauthorized"),
        .updated (.failed "Ledger returned 401: unauthorized"),
        .resolved (.notFound "DID not found: did:open:x: Ledger returned 401: unauthorized")],
        created.2) := by
  intro registry door client guarded opened created
  have htoken : Server.PlainToken "Bearer T" :=
    ⟨List.forall_iff_forall_mem.1 (by decide), by decide, by decide⟩
  have hnetworks : ∀ network ∈ registry.networks,
      ∀ value, network.authToken = some value → Server.PlainToken value := by
    refine List.forall_mem_cons.2 ⟨?_, List.forall_mem_cons.2 ⟨?_, List.forall_mem_cons.2 ⟨?_,
      List.forall_mem_nil _⟩⟩⟩
    · rintro value ⟨⟩
      exact htoken
    · rintro value ⟨⟩
    · rintro value ⟨⟩
      exact htoken
  obtain ⟨hruns, hlacks, htold⟩ := runAll_guarded client door rfl registry hnetworks
  have hbase : Server.IsBase 8080 (Server.urlAt 8080) := ⟨0, String.append_empty.symm⟩
  have hadmitted : registry.refusal? client door (.create (.new "x" "K")) = none := by
    rw [← Option.not_isSome_iff_eq_none, hlacks]
    rintro ⟨errand, url, herrand, hurl, -, hpresents⟩
    cases herrand
    have hread : Http.urlOf client ((Network.new "ours" (Server.urlAt 8080)).withToken "Bearer T")
        createPath = .ok url := hurl
    rw [urlOf_of_isBase hbase client plainPath_createPath, Except.ok.injEq] at hread
    subst hread
    exact hpresents (presents?_of_nobody rfl)
  -- the others come to the server, and what they are told is known
  have hgiven : ∀ op errand url, registry.errand? op = some errand →
      Http.urlOf client errand.network errand.request.path = .ok url → door.isAt url = true →
      errand.network.presents? url ≠ some "Bearer T" → door.PointedAt client errand.network →
      op.Sendable → (∀ v, errand.request.body = some v → door.intake.fits v.render = true) →
      registry.refusal? client door op =
        some (op.failing "Ledger returned 401: unauthorized") := by
    intro op errand url herrand hurl hat hpresents hpoints hop hfits
    obtain ⟨report, hreport⟩ := Option.isSome_iff_exists.1
      ((hlacks op).2 ⟨errand, url, herrand, hurl, hat, hpresents⟩)
    rw [hreport, (htold op errand report herrand hreport).unauthorized hpoints hop hfits]
  have hpoints : door.PointedAt client (.new "open" (Server.urlAt 8080)) :=
    pointedAt_of_isBase rfl rfl client hbase
  have hnone : ∀ path, (Network.new "open" (Server.urlAt 8080)).presents?
      (Server.urlTo 8080 path .nobody) ≠ some "Bearer T" := by
    intro path
    rw [presents?_of_nobody rfl]
    nofun
  have hcreate := hgiven (.create ⟨"x", "K", some "open", none⟩)
    (.create (.new "open" (Server.urlAt 8080))
      (.nym "open" (Registry.creation ⟨"x", "K", some "open", none⟩)))
    (Server.urlTo 8080 createPath .nobody) rfl
    (urlOf_of_isBase hbase client plainPath_createPath) (Server.isAt_urlTo rfl rfl _ _)
    (hnone _) hpoints trivial (by rintro v ⟨⟩; decide +kernel)
  have hparse : Did.parse? "did:open:x" = some ⟨"open", "x"⟩ := rfl
  have hresolve := hgiven (.resolve "did:open:x")
    (.read (.new "open" (Server.urlAt 8080)) "did:open:x")
    (Server.urlTo 8080 (readPath "did:open:x" .nym) .nobody) rfl
    (urlOf_of_isBase hbase client (plainPath_readPath hparse .nym))
    (Server.isAt_urlTo rfl rfl _ _) (hnone _) hpoints trivial nofun
  have hafter : (afterUser ("u:p".toList ++ '@' :: Server.authorityAt 8080)).1 =
      Server.authorityAt 8080 := afterUser_append (Server.at_notMem_authorityAt 8080) _
  have hchars : ∀ c ∈ "u:p".toList ++ '@' :: Server.authorityAt 8080,
      (isAddressChar c && !isSlash true c) = true := List.all_eq_true.1 (by decide +kernel)
  simp only [Bool.and_eq_true, Bool.not_eq_true'] at hchars
  have htheirs : "http://u:p@127.0.0.1:8080/" = String.ofList ("http://".toList ++
      ("u:p".toList ++ '@' :: Server.authorityAt 8080)) ++
        String.ofList (List.replicate 1 '/') := by decide +kernel
  have huser : userIn ("u:p".toList ++ '@' :: Server.authorityAt 8080) = ⟨"u", some "p"⟩ := by
    decide +kernel
  have hupdate := hgiven (.update "did:theirs:x" .empty)
    (.update ((Network.new "theirs" "http://u:p@127.0.0.1:8080/").withToken "Bearer T")
      (.nym "theirs" (Registry.change ⟨"theirs", "x"⟩ .empty)) "did:theirs:x")
    (Server.urlTo 8080 updatePath ⟨"u", some "p"⟩) rfl
    (huser ▸ urlOf_of_authority hafter hchars htheirs client plainPath_updatePath)
    (Server.isAt_urlTo rfl rfl _ _) (by decide +kernel)
    (pointedAt_of_authority rfl rfl client hafter hchars htheirs) trivial
    (by rintro v ⟨⟩; decide +kernel)
  rw [hruns]
  simp only [Service.sparing, hadmitted, hcreate, hupdate, hresolve]
  rfl

theorem eq_notJson_of_told {intake : Intake} {r : Request} {v : Json} (hbody : r.body = some v)
    (hfits : intake.fits v.render = true) (hnone : Json.parse? v.render = none)
    {rejection : Rejection} (h : Told intake r rejection) :
    rejection = notJson (intake.complaint v.render) := by
  cases h with
  | unauthorized hread =>
    have hsome := (hread v hbody).2
    rw [hnone] at hsome
    cases hsome
  | tooLarge hbody' hlarge =>
    rw [hbody, Option.some.injEq] at hbody'
    rw [← hbody', hfits] at hlarge
    cases hlarge
  | notJson hbody' _ _ =>
    rw [hbody, Option.some.injEq] at hbody'
    rw [hbody']

/-- A transaction that cannot be read is turned away for that, whatever the network presents. -/
theorem turning?_of_unread {door : Server} {port : UInt16} {token : String}
    (hhost : door.host = Server.loopback) (hport : door.port = port.toNat)
    (hasked : door.token = some token) {network : Network} (hnetwork : Server.Hosts port network)
    (client : Http.Client) {t : Transaction} (hfits : door.intake.fits t.createBody.render = true)
    (hnone : Json.parse? t.createBody.render = none) :
    door.turning? client network (Errand.create network t).request =
      some (notJson (door.intake.complaint t.createBody.render)) := by
  have hbears := bears_messageTo port client (Errand.create network t).request
  have htold : Told door.intake (Errand.create network t).request
      (door.rejectionOf (messageTo port client (Errand.create network t).request)) :=
    told_write door .create hbears
  have hnobody : door.authorizes
      (messageTo port client (Errand.create network t).request) = false := by
    simp [Server.authorizes, hasked, messageTo]
  exact turning?_eq_some_iff.2 ⟨_, prepare_of_hosts hnetwork client plainPath_createPath,
    Server.isAt_urlTo hhost hport _ _, hnobody, eq_notJson_of_told rfl hfits hnone htold⟩

/-- Key material that is nested too deep makes a body that cannot be read. -/
theorem parse?_createBody_eq_none {d : Definition} (hprimary : d.value.primary.WellFormed)
    (hrevocation : (d.value.revocation.getD .null).WellFormed)
    (hdeep : Json.Parser.maxDepth - 4 < d.value.primary.depth) (network : String) :
    Json.parse? (d.transaction network).createBody.render = none := by
  have hbody := readable_createBody (readable_definition
    ⟨hprimary, Nat.le_max_left _ _⟩ ⟨hrevocation, Nat.le_max_right _ _⟩ network)
  -- the material is in the data of the operation of the transaction
  have hdepth : d.value.primary.depth + 4 ≤ (d.transaction network).createBody.depth := by
    simp only [Transaction.createBody, Definition.transaction, Json.depth, Json.depthMembers]
    omega
  exact Json.parse?_render_eq_none hbody.wellFormed (by omega)

/-- **Key material that is nested too deep is complained about**, whatever the network
    presents. -/
theorem run_of_deep (door : Server) {port : UInt16} {token : String}
    (hhost : door.host = Server.loopback) (hport : door.port = port.toNat)
    (hasked : door.token = some token) (hlimit : door.intake.limit = none) {network : Network}
    (hnetwork : Server.Hosts port network) (client : Http.Client) {d : Definition}
    {plan : Plan RegisteredDefinition} (hplan : registry.planDefinition d = .ok plan)
    (hissuer : registry.issuerNetwork d.issuerId = .ok network)
    (hprimary : d.value.primary.WellFormed)
    (hrevocation : (d.value.revocation.getD .null).WellFormed)
    (hdeep : Json.Parser.maxDepth - 4 < d.value.primary.depth) (readBody : Option String)
    (s : Store) :
    ∃ text, Service.run ⟨registry, Http.transport client (door.guarding readBody).exchange⟩ s
        (.registerDefinition d) =
      (.definitionRegistered (.failed (Error.rejected 400
        ("Failed to parse the request body as JSON: " ++ door.intake.complaint text)).message),
        s) := by
  obtain ⟨-, network', hissuer', hrequest⟩ := Registry.planDefinition_eq_ok_iff.1 hplan
  rw [hissuer, Except.ok.injEq] at hissuer'
  subst hissuer'
  have herrand : registry.errand? (.registerDefinition d) =
      some (.create network (d.transaction network.name)) := by
    rw [Registry.errand?, Registry.course, hplan, hrequest]
    rfl
  have hfits : door.intake.fits (d.transaction network.name).createBody.render = true := by
    rw [Intake.fits, hlimit]
    rfl
  have hturning := turning?_of_unread hhost hport hasked hnetwork client hfits
    (parse?_createBody_eq_none hprimary hrevocation hdeep network.name)
  exact ⟨_, run_of_refusal?
    (Registry.refusal?_eq_some_iff.2 ⟨_, _, herrand, hturning, rfl⟩) readBody s⟩

/-- The path and the body are looked at before what is presented, and a user before the token. -/
theorem not_always_unauthorized :
    let door : Server :=
      { Server.start 8080 (some "Bearer T") none with
        intake := ⟨none, fun _ => "recursion limit exceeded"⟩ }
    let client : Http.Client := .json .plain
    let network := Network.new "testnet" (Server.urlAt 8080)
    let behind : Registry := ⟨[.new "testnet" (Server.urlAt 8080 ++ "/v1")]⟩
    let named := (Network.new "testnet" "http://u:p@127.0.0.1:8080").withToken "Bearer T"
    let stored (server : Server) : Bool :=
      ((Service.run ⟨⟨[named]⟩, Http.transport client server.exchange⟩ (Store.empty .reject)
        (.create (.new "x" "K"))).2.nym? "did:testnet:x").isSome
    (Service.run ⟨⟨[network]⟩, Http.transport client (door.guarding none).exchange⟩
        (Store.empty .reject)
        (.registerDefinition
          ⟨"did:testnet:x", "schema", "CL", "tag", ⟨Json.nested 200, none⟩⟩)).1 =
      .definitionRegistered (.failed ("Ledger returned 400: Failed to parse the request body " ++
        "as JSON: recursion limit exceeded")) ∧
    (Service.run ⟨behind, Http.transport client (door.guarding none).exchange⟩
        (Store.empty .reject) (.create (.new "x" "K"))).1 =
      .created (.failed "Ledger returned 404: ") ∧
    stored (door.guarding none) = false ∧ stored (door.opened none) = true := by
  have hwellFormed := Json.wellFormed_nested 200
  have hdeep : Json.Parser.maxDepth - 4 < (Json.nested 200).depth := by
    rw [Json.depth_nested]
    decide
  generalize Json.nested 200 = primary at hwellFormed hdeep
  intro door client network behind named stored
  refine ⟨?_, ?_, by decide +kernel, by decide +kernel⟩
  · have hhosts : Server.Hosts 8080 network := ⟨rfl, 0, String.append_empty.symm⟩
    have hissuer : Registry.issuerNetwork ⟨[network]⟩ "did:testnet:x" = .ok network := rfl
    have hmessage : (Error.rejected 400
        ("Failed to parse the request body as JSON: " ++ "recursion limit exceeded")).message =
          "Ledger returned 400: Failed to parse the request body " ++
            "as JSON: recursion limit exceeded" := by decide +kernel
    obtain ⟨plan, hplan⟩ : ∃ plan, Registry.planDefinition ⟨[network]⟩
        ⟨"did:testnet:x", "schema", "CL", "tag", ⟨primary, none⟩⟩ = .ok plan :=
      ⟨_, Registry.planDefinition_eq_ok_iff.2
        ⟨⟨⟨by simp, by simp⟩, by simp⟩, network, hissuer, rfl⟩⟩
    obtain ⟨text, hrun⟩ := run_of_deep door rfl rfl rfl rfl hhosts client hplan hissuer
      hwellFormed trivial hdeep none (Store.empty .reject)
    rw [hrun, ← hmessage]
  · have herrand : behind.errand? (.create (.new "x" "K")) =
        some (.create (.new "testnet" (Server.urlAt 8080 ++ "/v1"))
          (.nym "testnet" (Registry.creation (.new "x" "K")))) := rfl
    have hturning : door.turning? client (.new "testnet" (Server.urlAt 8080 ++ "/v1"))
        (Errand.create (.new "testnet" (Server.urlAt 8080 ++ "/v1"))
          (.nym "testnet" (Registry.creation (.new "x" "K")))).request = some noPath := by
      decide +kernel
    exact congrArg Prod.fst (run_of_refusal?
      (Registry.refusal?_eq_some_iff.2 ⟨_, _, herrand, hturning, rfl⟩) none (Store.empty .reject))

end DidLedger
