/-
  DidLedger/Proofs/Ledger/Emulation.lean
  ======================================
  **The ledger behind a server and the ledger in memory are interchangeable.**

  Every request that a service makes names the same action whichever way it takes
  (`carries_create` and its like): its path consists of plain segments, because an
  identifier in it is percent coded and a DID never is a dot, and its body comes
  through as text.  What the ledger answers comes through as text as well, as
  long as the roles that it stores are texts, and a service stores no others.  So
  the two transports agree on every request of a run, and runs over them give the
  same reports and the same stores (`runAll_server`).
-/
import DidLedger.Proofs.Ledger.Directory
import DidLedger.Proofs.Ledger.Server

namespace DidLedger

open DidLedger.Ledger DidLedger.Text DidLedger.Url DidLedger.Credential

/-! ### Requests that go either way -/

/-- A DID begins with a letter, which is coded as itself. -/
theorem exists_toList_encode {did : String} {parsed : Did} (h : Did.parse? did = some parsed) :
    ∃ rest, (Percent.encode did).toList = 'd' :: rest := by
  obtain ⟨rfl, -⟩ := Did.display_of_parse? h
  -- the rest of the text stays a variable, so that only the prefix is computed
  have hlead : ∀ rest : List Char, ∃ rest', Percent.encodeBytes
      (("did:".toList ++ rest).flatMap String.utf8EncodeChar) = 'd' :: rest' := fun _ => ⟨_, rfl⟩
  rw [Percent.encode, String.toList_ofList, Utf8.encode, Did.toList_display]
  exact hlead _

theorem toList_encode_ne_nil {did : String} {parsed : Did} (h : Did.parse? did = some parsed) :
    (Percent.encode did).toList ≠ [] := by
  obtain ⟨rest, hrest⟩ := exists_toList_encode h
  rw [hrest]
  exact List.cons_ne_nil _ _

theorem plainSegment_encode {did : String} {parsed : Did} (h : Did.parse? did = some parsed) :
    PlainSegment (Percent.encode did).toList := by
  obtain ⟨rest, hrest⟩ := exists_toList_encode h
  refine ⟨fun c hc => Percent.isPlain_of_mem_encode hc, ?_, ?_⟩
  · rw [hrest]
    rfl
  · rw [hrest]
    rfl

theorem plainPath_createPath : PlainPath createPath "CreateTransaction".toList [] where
  path_eq := rfl
  plain := List.forall_iff_forall_mem.1 (show PlainSegment "CreateTransaction".toList by decide)

theorem plainPath_updatePath : PlainPath updatePath "UpdateTransaction".toList [] where
  path_eq := rfl
  plain := List.forall_iff_forall_mem.1 (show PlainSegment "UpdateTransaction".toList by decide)

theorem plainPath_readPath {did : String} {parsed : Did} (h : Did.parse? did = some parsed)
    (kind : Kind) :
    PlainPath (readPath did kind) "ReadTransaction".toList
      [(Percent.encode did).toList, kind.name.toList] where
  path_eq := by
    rw [← String.toList_inj]
    simp [readPath, readRoot, joinSegments]
  plain := by
    have hroot : PlainSegment "ReadTransaction".toList := by decide
    have hkind : PlainSegment kind.name.toList := by cases kind <;> decide
    exact List.forall_iff_forall_mem.1 ⟨hroot, plainSegment_encode h, hkind⟩

theorem plainPath_deletePath {did : String} {parsed : Did} (h : Did.parse? did = some parsed) :
    PlainPath (deletePath did) "DeleteTransaction".toList [(Percent.encode did).toList] where
  path_eq := by
    rw [← String.toList_inj]
    simp [deletePath, deleteRoot, joinSegments]
  plain := by
    have hroot : PlainSegment "DeleteTransaction".toList := by decide
    exact List.forall_iff_forall_mem.1 ⟨hroot, plainSegment_encode h⟩

theorem parameter_encode (name did : String) :
    parameter name (Percent.encode did).toList = .ok did := by
  unfold parameter
  rw [String.ofList_toList, Percent.decode?_encode]

theorem read_boundless {v : Json} (hv : v.Portable Json.Parser.maxDepth) :
    Intake.boundless.read v.render = .ok v := by
  have hfits : Intake.boundless.fits v.render = true := rfl
  simp [Intake.read, hfits, Json.parse?_render hv]

theorem plainPath_route (route : WriteRoute) :
    PlainPath route.path (route.path.toList.drop 1) [] := by
  cases route with
  | create => exact plainPath_createPath
  | update => exact plainPath_updatePath

/-- **A message to a writing route is about the value in its body.** -/
theorem ofMessage_write (intake : Intake) (route : WriteRoute) {v : Json} {m : Http.Message}
    (hm : Bears m ⟨.post, route.path, some v⟩) :
    Action.ofMessage intake m = (intake.read v.render).map route.action := by
  have hsegments : segments m.url.path = [route.path.toList.drop 1] := by
    rw [hm.path_eq]
    exact (plainPath_route route).segments_eq
  have hroute : WriteRoute.at? (route.path.toList.drop 1) = some route := by
    cases route <;> decide
  have hmethod : m.method = .post := hm.method_eq
  have htype : m.contentType = some "application/json" := hm.contentType_eq
  have hbody : m.body.getD "" = v.render := by
    rw [hm.body_eq]
    rfl
  rw [Action.ofMessage, hsegments]
  simp only [hroute]
  rw [if_pos hmethod, Intake.bodyValue, if_pos htype, hbody]

theorem carries_write (route : WriteRoute) {v : Json} (hv : v.Portable Json.Parser.maxDepth)
    (hrequest : Action.ofRequest ⟨.post, route.path, some v⟩ = .ok (route.action v)) :
    Carries ⟨.post, route.path, some v⟩ (route.action v) where
  exists_plainPath := ⟨_, _, plainPath_route route⟩
  ofRequest_eq := hrequest
  ofMessage_eq m hm := by
    rw [ofMessage_write .boundless route hm, read_boundless hv]
    rfl

theorem carries_create (network : Network) {t : Transaction}
    (hbody : t.createBody.Portable Json.Parser.maxDepth) :
    Carries (Errand.create network t).request (.create t.createBody) :=
  carries_write .create hbody (Store.ofRequest_create network t)

theorem carries_update (network : Network) {t : Transaction} {id : String}
    (hbody : (t.updateBody id).Portable Json.Parser.maxDepth) :
    Carries (Errand.update network t id).request (.update (t.updateBody id)) :=
  carries_write .update hbody (Store.ofRequest_update network t id)

/-- **A message that reads a DID names it**, whatever the server takes in. -/
theorem ofMessage_read (intake : Intake) (network : Network) {did : String} {parsed : Did}
    (h : Did.parse? did = some parsed) {m : Http.Message}
    (hm : Bears m (Errand.read network did).request) :
    Action.ofMessage intake m = .ok (.read did Kind.nym.name) := by
  have hsegments : segments m.url.path =
      ["ReadTransaction".toList, (Percent.encode did).toList, "nym".toList] := by
    rw [hm.path_eq]
    exact (plainPath_readPath h .nym).segments_eq
  have hparts : (Percent.encode did).toList ≠ [] ∧ "nym".toList ≠ [] :=
    ⟨toList_encode_ne_nil h, by decide⟩
  have hmethod : m.method = .get := hm.method_eq
  have hkind : parameter "kind" "nym".toList = .ok "nym" := rfl
  rw [Action.ofMessage, hsegments]
  simp only [true_and]
  rw [if_pos hparts, if_pos hmethod, parameter_encode, hkind]
  rfl

theorem ofMessage_delete (intake : Intake) (network : Network) {did : String} {parsed : Did}
    (h : Did.parse? did = some parsed) {m : Http.Message}
    (hm : Bears m (Errand.delete network did).request) :
    Action.ofMessage intake m = .ok (.delete did) := by
  have hsegments : segments m.url.path =
      ["DeleteTransaction".toList, (Percent.encode did).toList] := by
    rw [hm.path_eq]
    exact (plainPath_deletePath h).segments_eq
  have hmethod : m.method = .delete := hm.method_eq
  rw [Action.ofMessage, hsegments]
  simp only [true_and]
  rw [if_pos (toList_encode_ne_nil h), if_pos hmethod, parameter_encode]
  rfl

theorem carries_read (network : Network) {did : String} {parsed : Did}
    (h : Did.parse? did = some parsed) :
    Carries (Errand.read network did).request (.read did Kind.nym.name) where
  exists_plainPath := ⟨_, _, plainPath_readPath h .nym⟩
  ofRequest_eq := Store.ofRequest_readPath did .nym none
  ofMessage_eq _ hm := ofMessage_read .boundless network h hm

theorem carries_delete (network : Network) {did : String} {parsed : Did}
    (h : Did.parse? did = some parsed) :
    Carries (Errand.delete network did).request (.delete did) where
  exists_plainPath := ⟨_, _, plainPath_deletePath h⟩
  ofRequest_eq := Store.ofRequest_deletePath did none
  ofMessage_eq _ hm := ofMessage_delete .boundless network h hm

/-! ### Bodies -/

theorem readable_createBody {t : Transaction} {levels : Nat} (h : t.content.Readable levels) :
    t.createBody.Readable (levels + 1) :=
  Json.readable_object (show ["network", "transaction", "type"].Pairwise (· < ·) by decide)
    ⟨Json.readable_string _ _, h, Json.readable_string _ _⟩

theorem portable_createBody {t : Transaction} {levels : Nat} (h : t.content.Portable levels) :
    t.createBody.Portable (levels + 1) :=
  Json.portable_object (show ["network", "transaction", "type"].Pairwise (· < ·) by decide)
    ⟨Json.portable_string _ _, h, Json.portable_string _ _⟩

theorem portable_updateBody {t : Transaction} {levels : Nat} (h : t.content.Portable levels)
    (id : String) : (t.updateBody id).Portable (levels + 1) :=
  Json.portable_object (show ["id", "transaction", "type"].Pairwise (· < ·) by decide)
    ⟨Json.portable_string _ _, h, Json.portable_string _ _⟩

theorem portable_nym (network : String) (o : NymOperation) (levels : Nat) :
    (Transaction.nym network o).content.Portable (levels + 2) := by
  have hoperation : (NymOperation.shape.toJson o).Portable (levels + 1) := by
    rw [toJson_nymOperation]
    exact Json.portable_object (show ["dest", "role", "verkey"].Pairwise (· < ·) by decide)
      ⟨Json.portable_string _ _, Json.portable_string _ _, Json.portable_string _ _⟩
  exact Json.portable_object (List.pairwise_singleton _ _) hoperation

theorem portable_schema (schema : Schema) (network : String) (levels : Nat) :
    (schema.transaction network).content.Portable (levels + 4) := by
  have hnames : (Json.array (schema.attrNames.map .string)).Portable (levels + 1) := by
    apply Json.portable_array
    intro e he
    obtain ⟨name, -, rfl⟩ := List.mem_map.1 he
    exact Json.portable_string _ _
  have hdata : (Json.object [("attrNames", .array (schema.attrNames.map .string)),
      ("name", .string schema.name), ("version", .string schema.version)]).Portable (levels + 2) :=
    Json.portable_object (show ["attrNames", "name", "version"].Pairwise (· < ·) by decide)
      ⟨hnames, Json.portable_string _ _, Json.portable_string _ _⟩
  have hoperation : (Json.object [("data", _)]).Portable (levels + 3) :=
    Json.portable_object (List.pairwise_singleton _ _) hdata
  exact Json.portable_object (show ["identifier", "operation"].Pairwise (· < ·) by decide)
    ⟨Json.portable_string _ _, hoperation⟩

/-- Whether key material comes through as text; it stands inside four objects. -/
def Credential.KeyMaterial.Portable (value : KeyMaterial) : Prop :=
  value.primary.Portable (Json.Parser.maxDepth - 4) ∧
    (value.revocation.getD .null).Portable (Json.Parser.maxDepth - 4)

theorem readable_definition {d : Definition} {levels : Nat}
    (hprimary : d.value.primary.Readable levels)
    (hrevocation : (d.value.revocation.getD .null).Readable levels) (network : String) :
    (d.transaction network).content.Readable (levels + 3) := by
  have hdata : (Json.object [("primary", d.value.primary),
      ("revocation", d.value.revocation.getD .null)]).Readable (levels + 1) :=
    Json.readable_object (show ["primary", "revocation"].Pairwise (· < ·) by decide)
      ⟨hprimary, hrevocation⟩
  have hoperation : (Json.object [("data", _), ("ref", .string d.schemaId),
      ("signature_type", .string d.type), ("tag", .string d.tag)]).Readable (levels + 2) :=
    Json.readable_object
      (show ["data", "ref", "signature_type", "tag"].Pairwise (· < ·) by decide)
      ⟨hdata, Json.readable_string _ _, Json.readable_string _ _, Json.readable_string _ _⟩
  exact Json.readable_object (show ["identifier", "operation"].Pairwise (· < ·) by decide)
    ⟨Json.readable_string _ _, hoperation⟩

theorem portable_definition {d : Definition} (h : d.value.Portable) (network : String) :
    (d.transaction network).content.Portable (Json.Parser.maxDepth - 4 + 3) := by
  obtain ⟨hv, hd⟩ := readable_definition h.1.readable h.2.readable network
  have hdata : Json.IntegralMembers [("primary", d.value.primary),
      ("revocation", d.value.revocation.getD .null)] := ⟨h.1.integral, h.2.integral, trivial⟩
  exact ⟨hv, ⟨trivial, ⟨hdata, trivial, trivial, trivial, trivial⟩, trivial⟩, hd⟩

/-! ### Answers -/

theorem answerable_accepted : Answerable (.ok accepted) :=
  Json.portable_object (List.pairwise_singleton _ _) (Json.portable_string _ _)

theorem answerable_acceptedNym (did : String) : Answerable (.ok (acceptedNym did)) :=
  Json.portable_object (show ["did", "status"].Pairwise (· < ·) by decide)
    ⟨Json.portable_string _ _, Json.portable_string _ _⟩

theorem answerable_nym (did : String) (l : Listing) :
    Answerable (.ok (.object [("result", (l.nym did).toJson)])) := by
  have hnym : (l.nym did).toJson.Portable (Json.Parser.maxDepth - 1) :=
    Json.portable_object (show ["did", "role", "verkey"].Pairwise (· < ·) by decide)
      ⟨Json.portable_string _ _, Json.portable_string _ _, Json.portable_string _ _⟩
  exact Json.portable_object (List.pairwise_singleton _ _) hnym

theorem answerable_unknownNym (did : String) : Answerable (.error (unknownNym did)) := by
  have htext : (unknownNym did).body = "nym " ++ (did ++ " not found") :=
    String.append_assoc
  have hrejection : unknownNym did = ⟨404, "nym " ++ (did ++ " not found")⟩ := by
    rw [← htext]
    rfl
  rw [hrejection]
  exact answerable_text rfl rfl (by decide) _

theorem answerable_duplicate (did : String) :
    Answerable (.error ⟨409, s!"nym {did} already exists"⟩) := by
  have htext : s!"nym {did} already exists" = "nym " ++ (did ++ " already exists") :=
    String.append_assoc
  rw [htext]
  exact answerable_text rfl rfl (by decide) _

/-! ### Requests of a service -/

/-- Whether an operation can be sent as text. -/
def Operation.Portable : Operation → Prop
  | .registerDefinition d => d.value.Portable
  | _ => True

/-- A request that goes to a configured network, names the same action whichever
    way it takes, and is answered with what comes through as text. -/
structure Served (registry : Registry) (errand : Errand) : Prop where
  mem : errand.network ∈ registry.networks
  exists_carries : ∃ action, Carries errand.request action
  answerable : ∀ {policy m s}, Directory.Describes policy m s →
    Answerable (s.handle errand.request).1

variable {registry : Registry}

theorem served_createNym {network : Network} (hmem : network ∈ registry.networks) (name : String)
    (o : NymOperation) : Served registry (.create network (.nym name o)) where
  mem := hmem
  exists_carries := ⟨_, carries_create network (portable_createBody (portable_nym name o _))⟩
  answerable := by
    intro policy m s h
    rw [Store.handle_createNym h.forced_eq]
    split
    · exact answerable_duplicate _
    · exact answerable_acceptedNym _

theorem served_createBody {network : Network} (hmem : network ∈ registry.networks)
    {t : Transaction} (hkind : t.kind ≠ .nym) (hbody : t.createBody.Portable Json.Parser.maxDepth) :
    Served registry (.create network t) where
  mem := hmem
  exists_carries := ⟨_, carries_create network hbody⟩
  answerable := by
    intro policy m s h
    rw [Store.handle_createBody h.forced_eq network t hkind]
    exact answerable_accepted

theorem served_update {did : String} {parsed : Did} {network : Network}
    (h : registry.locate did = .ok (parsed, network)) (o : NymOperation) :
    Served registry (.update network (.nym network.name o) did) where
  mem := Registry.mem_of_find (Registry.locate_eq_ok_iff.1 h).2
  exists_carries :=
    ⟨_, carries_update network (portable_updateBody (portable_nym network.name o _) did)⟩
  answerable := by
    intro policy m s hdescribes
    rw [Store.handle_updateNym hdescribes.forced_eq]
    cases s.nym? did with
    | none => exact answerable_unknownNym did
    | some n => exact answerable_accepted

theorem served_read {did : String} {parsed : Did} {network : Network}
    (h : registry.locate did = .ok (parsed, network)) : Served registry (.read network did) where
  mem := Registry.mem_of_find (Registry.locate_eq_ok_iff.1 h).2
  exists_carries := ⟨_, carries_read network (Registry.locate_eq_ok_iff.1 h).1⟩
  answerable := by
    intro policy m s hdescribes
    have hhandle : s.handle (Errand.read network did).request = s.read did Kind.nym.name :=
      Store.handle_readPath hdescribes.forced_eq did .nym none
    rw [hhandle]
    simp only [Store.read, if_true, hdescribes.nym?_eq]
    cases m did with
    | none => exact answerable_unknownNym did
    | some l => exact answerable_nym did l

theorem served_delete {did : String} {parsed : Did} {network : Network}
    (h : registry.locate did = .ok (parsed, network)) : Served registry (.delete network did) where
  mem := Registry.mem_of_find (Registry.locate_eq_ok_iff.1 h).2
  exists_carries := ⟨_, carries_delete network (Registry.locate_eq_ok_iff.1 h).1⟩
  answerable := by
    intro policy m s hdescribes
    have hhandle : s.handle (Errand.delete network did).request = s.delete did :=
      Store.handle_deletePath hdescribes.forced_eq did none
    rw [hhandle]
    simp only [Store.delete]
    cases s.nym? did with
    | none => exact answerable_unknownNym did
    | some n => exact answerable_accepted

/-- **Every request that an operation makes is served alike.** -/
theorem served_of_course {op : Operation} (hop : op.Portable) {errand : Errand}
    {conclude : Answer → Report} (hcourse : registry.course op = .asking errand conclude) :
    Served registry errand := by
  cases Registry.asks_of_course hcourse with
  | create hselect => exact served_createNym (Registry.mem_of_select hselect) _ _
  | resolve hlocate => exact served_read hlocate
  | update _ hlocate => exact served_update hlocate _
  | deactivate hlocate => exact served_delete hlocate
  | registerSchema hissuer =>
    exact served_createBody (Registry.mem_of_issuerNetwork hissuer) Kind.noConfusion
      (portable_createBody (portable_schema _ _ _))
  | registerDefinition hissuer =>
    exact served_createBody (Registry.mem_of_issuerNetwork hissuer) Kind.noConfusion
      (portable_createBody (portable_definition hop _))

/-! ### Runs -/

theorem alike_server {port : UInt16} (client : Http.Client) (policy : DuplicatePolicy)
    (hnetworks : ∀ network ∈ registry.networks, Server.Hosts port network) {op : Operation}
    (hop : op.Portable) :
    Service.Alike registry (Http.transport client (Server.start port none none).exchange)
      Store.transport (fun s s' => s = s' ∧ ∃ m, Directory.Describes policy m s) op := by
  rintro errand conclude hcourse s _ ⟨rfl, m, hdescribes⟩
  obtain ⟨hmem, ⟨action, hcarries⟩, hanswerable⟩ := served_of_course hop hcourse
  rw [exchange_eq_transport (hnetworks _ hmem) client hcarries hdescribes.forced_eq
    (hanswerable hdescribes)]
  refine ⟨rfl, rfl, ?_⟩
  -- the store after the answer is the one after the step of the service in memory
  obtain ⟨-, hstep⟩ := Directory.run_refines registry hdescribes op
  rw [Service.run_eq_follow, hcourse] at hstep
  exact ⟨_, hstep⟩

/-- **A service over HTTP on a server does, operation by operation, what it does
    on a ledger in memory**: the reports are the same, and so is the ledger in
    the end. -/
theorem runAll_server (client : Http.Client) (port : UInt16) (policy : DuplicatePolicy)
    (registry : Registry) (hnetworks : ∀ network ∈ registry.networks, Server.Hosts port network)
    (ops : List Operation) (hops : ∀ op ∈ ops, op.Portable) :
    let overHttp := Service.runAll
      ⟨registry, Http.transport client (Server.start port none none).exchange⟩
      (Store.empty policy) ops
    let inMemory := Service.runAll
      ⟨registry, Store.transport.recording⟩ (Store.empty policy, []) ops
    overHttp.1 = inMemory.1 ∧ overHttp.2 = inMemory.2.1 := by
  obtain ⟨hreports, hstore⟩ :=
    Service.runAll_recording registry Store.transport (Store.empty policy) [] ops
  have halike := fun op hop => alike_server client policy hnetworks (hops op hop)
  have hstart : Store.empty policy = Store.empty policy ∧
      ∃ m, Directory.Describes policy m (Store.empty policy) :=
    ⟨rfl, Directory.empty, .empty policy⟩
  obtain ⟨hsame, hend, -⟩ := Service.runAll_related halike hstart
  simp only [hreports, hstore]
  exact ⟨hsame, hend⟩

/-- A network whose base URL ends in two slashes, and an identifier with characters
    that mean something in a path. -/
theorem runAll_server_slashes :
    let registry : Registry := ⟨[.new "testnet" (Server.urlAt 8080 ++ String.ofList ['/', '/'])]⟩
    let ops : List Operation :=
      [.create ⟨"a/b%2F", "K", none, none⟩, .resolve "did:testnet:a/b%2F",
        .registerDefinition ⟨"did:testnet:a/b%2F", "schema", "CL", "tag", ⟨.ofNat 7, none⟩⟩]
    (Service.runAll ⟨registry, Http.transport (.json .plain) (Server.start 8080 none none).exchange⟩
        (Store.empty .reject) ops).1 =
      (Service.runAll ⟨registry, Store.transport.recording⟩ (Store.empty .reject, []) ops).1 := by
  intro registry ops
  have hnetworks : ∀ network ∈ registry.networks, Server.Hosts 8080 network := by
    intro network hnetwork
    rw [List.mem_singleton] at hnetwork
    subst hnetwork
    exact ⟨rfl, 2, rfl⟩
  have hops : ∀ op ∈ ops, op.Portable := by
    intro op hop
    simp only [ops, List.mem_cons, List.not_mem_nil, or_false] at hop
    rcases hop with rfl | rfl | rfl
    · trivial
    · trivial
    · exact ⟨⟨⟨by decide, by decide⟩, trivial, Nat.zero_le _⟩, Json.portable_null _⟩
  exact (runAll_server (.json .plain) 8080 .reject registry hnetworks ops hops).1

end DidLedger
