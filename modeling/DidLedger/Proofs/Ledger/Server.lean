/-
  DidLedger/Proofs/Ledger/Server.lean
  ===================================
  **A server answers a message as its ledger answers the request.**

  A request goes to the server as a message with a URL and a text and comes back
  as a status and a text; the ledger in memory takes the request as it is.  For a
  request whose path has plain segments only and whose body comes through as text
  the two ways name the same action (`Carries`).  If also the result comes
  through as text (`Answerable`), the answers are the same and so are the ledgers
  afterwards (`exchange_eq_transport`).
-/
import DidLedger.Ledger.Server
import DidLedger.Proofs.Except
import DidLedger.Proofs.Http.Answer
import DidLedger.Proofs.Http.Redirect
import DidLedger.Proofs.Ledger.Requests
import DidLedger.Proofs.Url.Plain

namespace DidLedger.Http

open DidLedger.Text

/-- Slashes behind a base URL do not count. -/
theorem trimBase_append_slashes {text : String} (h : text.toList.getLast? ≠ some '/')
    (slashes : Nat) :
    trimBase (text ++ String.ofList (List.replicate slashes '/')) = text := by
  have hslashes : ∀ c ∈ List.replicate slashes '/', (c == '/') = true := by
    intro c hc
    rw [List.eq_of_mem_replicate hc]
    rfl
  have hstop : ∀ c ∈ text.toList.reverse.head?, (c == '/') = false := by
    intro c hc
    rw [List.head?_reverse] at hc
    rw [beq_eq_false_iff_ne]
    rintro rfl
    exact h hc
  rw [trimBase, String.toList_append, String.toList_ofList, List.reverse_append,
    List.reverse_replicate, dropWhile_append_of_head hslashes hstop, List.reverse_reverse,
    String.ofList_toList]

end DidLedger.Http

namespace DidLedger.Ledger

open DidLedger DidLedger.Text DidLedger.Url

/-! ### The address of a server -/

namespace Server

/-- The host and the port of a server in its URL. -/
def authorityAt (port : UInt16) : List Char :=
  "127.0.0.1".toList ++ ':' :: Nat.toDigits 10 port.toNat

theorem toList_urlAt (port : UInt16) :
    (urlAt port).toList = "http://".toList ++ authorityAt port := by
  have hport : (toString port.toNat).toList = Nat.toDigits 10 port.toNat := Nat.toList_repr
  have hurl : urlAt port = "http://127.0.0.1:" ++ toString port.toNat := rfl
  have hlead : "http://127.0.0.1:".toList = "http://".toList ++ ("127.0.0.1".toList ++ [':']) :=
    rfl
  rw [hurl, String.toList_append, hport, hlead, List.append_assoc, List.append_assoc]
  rfl

theorem mem_authorityAt {port : UInt16} {c : Char} (h : c ∈ authorityAt port) :
    c = ':' ∨ Percent.isPlain c = true := by
  rcases List.mem_append.1 h with h | h
  · have haddress : ∀ c ∈ "127.0.0.1".toList, Percent.isPlain c = true :=
      List.all_eq_true.1 (by decide)
    exact Or.inr (haddress c h)
  rcases List.mem_cons.1 h with h | h
  · exact Or.inl h
  · exact Or.inr (Percent.isPlain_of_isDigit
      (Nat.isDigit_of_mem_toDigits (by omega) (by omega) h))

theorem isAddressChar_of_mem_authorityAt {port : UInt16} {c : Char} (h : c ∈ authorityAt port) :
    isAddressChar c = true ∧ isSlash true c = false := by
  rcases mem_authorityAt h with rfl | hplain
  · decide
  · exact ⟨Percent.of_isPlain (by decide +kernel) hplain, isSlash_of_isPlain hplain true⟩

theorem port?_toDigits (port : UInt16) :
    port? (Nat.toDigits 10 port.toNat) = .ok (some port.toNat) := by
  have hdigits : (Nat.toDigits 10 port.toNat).all Char.isDigit = true := by
    rw [List.all_eq_true]
    exact fun c hc => Nat.isDigit_of_mem_toDigits (by omega) (by omega) hc
  have hempty : (Nat.toDigits 10 port.toNat).isEmpty = false := by
    simp [Nat.toDigits_ne_nil]
  have hfits : port.toNat < UInt16.size := port.toNat_lt
  simp only [port?, hdigits, hempty, Nat.ofDigitChars_ten_toDigits, Bool.false_eq_true, if_false,
    if_true]
  rw [if_pos hfits]

theorem at_notMem_authorityAt (port : UInt16) : '@' ∉ authorityAt port := by
  intro hmem
  rcases mem_authorityAt hmem with h | h
  · exact absurd h (by decide)
  · exact absurd h (by decide)

/-- An authority that ends in the one of a server leads there, whoever is named in front. -/
theorem webAuthority_of_afterUser (idna : Idna) {port : UInt16} {authority : List Char}
    (h : (afterUser authority).1 = authorityAt port) :
    webAuthority idna 80 authority = .ok (loopback, (some port.toNat).filter (· != 80)) := by
  have hcut : cutPort false (authorityAt port) =
      ("127.0.0.1".toList, some (Nat.toDigits 10 port.toNat)) := rfl
  have hhost : Host.parse idna "127.0.0.1".toList = .ok loopback := rfl
  have hfull : "127.0.0.1".toList.isEmpty = false := rfl
  simp only [webAuthority, h, hcut, hfull, hhost, Option.getD_some, port?_toDigits]
  rfl

/-- What a server delivers sends no client on. -/
theorem exchange_following (server : Server) (client : Http.Client) :
    server.exchange.following client = server.exchange := by
  apply Http.following_eq_self
  intro message s
  apply Http.next?_eq_none
  intro head hhead
  simp only [exchange] at hhead
  split at hhead
  · cases hhead
    rfl
  · cases hhead

/-- The URL of a path at a server as it is read. -/
def urlTo (port : UInt16) (path : String) (user : User) : Url :=
  ⟨"http", some loopback, (some port.toNat).filter (· != 80), path, none, user⟩

theorem isAt_urlTo {server : Server} {port : UInt16} (hhost : server.host = loopback)
    (hport : server.port = port.toNat) (path : String) (user : User) :
    server.isAt (urlTo port path user) = true := by
  have hread : ((some port.toNat).filter (· != 80)).getD 80 = port.toNat := by
    by_cases h : port.toNat = 80
    · simp [Option.filter, h]
    · simp [Option.filter, h]
  simp [isAt, urlTo, hhost, hport, hread]

/-- A base URL of a server: its own URL with any number of slashes after it. -/
def IsBase (port : UInt16) (baseUrl : String) : Prop :=
  ∃ slashes, baseUrl = urlAt port ++ String.ofList (List.replicate slashes '/')

/-- A network at a server: a base URL of the server, and no token. -/
def Hosts (port : UInt16) (network : Network) : Prop :=
  network.authToken = none ∧ IsBase port network.baseUrl

/-- Slashes behind an authority do not count. -/
theorem trimBase_of_authority {authority : List Char} (hne : authority ≠ [])
    (hslash : '/' ∉ authority) (slashes : Nat) :
    Http.trimBase (String.ofList ("http://".toList ++ authority) ++
        String.ofList (List.replicate slashes '/')) =
      String.ofList ("http://".toList ++ authority) := by
  -- the scheme stays a variable, so that it is not computed
  have hlast : ∀ lead : List Char,
      (String.ofList (lead ++ authority)).toList.getLast? ≠ some '/' := by
    intro lead
    rw [String.toList_ofList, List.getLast?_append_of_ne_nil _ hne]
    exact fun h => hslash (List.mem_of_getLast? h)
  exact Http.trimBase_append_slashes (hlast _) slashes

end Server

/-- A path that consists of the given segments, which are plain. -/
structure PlainPath (path : String) (first : List Char) (others : List (List Char)) : Prop where
  path_eq : path = String.ofList (joinSegments (first :: others))
  plain : ∀ segment ∈ first :: others, PlainSegment segment

/-- The server finds the segments of a plain path. -/
theorem PlainPath.segments_eq {path : String} {first : List Char} {others : List (List Char)}
    (h : PlainPath path first others) : segments path = first :: others := by
  have hjoin : joinSegments (first :: others) = '/' :: (first ++ joinSegments others) := by
    simp [joinSegments]
  rw [segments, h.path_eq, String.toList_ofList, hjoin, List.drop_succ_cons, List.drop_zero]
  refine atEvery_joinSegments rfl fun segment hs c hc => ?_
  have hslash := isSlash_of_isPlain ((h.plain segment hs).isPlain c hc) false
  simpa [isSlash] using hslash

/-- **A plain path behind the address of a server is read as it is written**, whoever is
    named in front of the address. -/
theorem urlOf_of_authority {port : UInt16} {network : Network} {authority : List Char}
    (hafter : (afterUser authority).1 = Server.authorityAt port)
    (hchars : ∀ c ∈ authority, isAddressChar c = true ∧ isSlash true c = false) {slashes : Nat}
    (hbase : network.baseUrl = String.ofList ("http://".toList ++ authority) ++
      String.ofList (List.replicate slashes '/'))
    (client : Http.Client) {path : String} {first : List Char} {others : List (List Char)}
    (hpath : PlainPath path first others) :
    Http.urlOf client network path = .ok (Server.urlTo port path (userIn authority)) := by
  obtain ⟨rfl, hplain⟩ := hpath
  have hread := Server.webAuthority_of_afterUser client.idna hafter
  have hne : authority ≠ [] := by
    rintro rfl
    cases hread
  have hslash : '/' ∉ authority := fun hmem => absurd (hchars '/' hmem).2 (by decide)
  have htext : String.ofList ("http://".toList ++ authority) ++
      String.ofList (joinSegments (first :: others)) =
        String.ofList ("http://".toList ++ (authority ++ joinSegments (first :: others))) := by
    rw [← String.toList_inj]
    simp only [String.toList_append, String.toList_ofList, List.append_assoc]
  rw [Http.urlOf, hbase, Server.trimBase_of_authority hne hslash, htext,
    parse_plain hread hchars hplain]
  rfl

theorem urlOf_of_isBase {port : UInt16} {network : Network}
    (hnetwork : Server.IsBase port network.baseUrl) (client : Http.Client) {path : String}
    {first : List Char} {others : List (List Char)} (hpath : PlainPath path first others) :
    Http.urlOf client network path = .ok (Server.urlTo port path .nobody) := by
  obtain ⟨slashes, hbase⟩ := hnetwork
  have htext : Server.urlAt port =
      String.ofList ("http://".toList ++ Server.authorityAt port) := by
    rw [← String.toList_inj, Server.toList_urlAt]
    exact String.toList_ofList.symm
  rw [htext] at hbase
  rw [urlOf_of_authority (afterUser_of_notMem (Server.at_notMem_authorityAt port))
    (fun c hc => Server.isAddressChar_of_mem_authorityAt hc) hbase client hpath,
    userIn_of_notMem (Server.at_notMem_authorityAt port)]

/-! ### Messages -/

/-- A message that says what a request says, under the path that the request names. -/
structure Bears (m : Http.Message) (r : Request) : Prop where
  method_eq : m.method = r.method
  path_eq : m.url.path = r.path
  contentType_eq : m.contentType = r.body.map fun _ => Http.jsonType
  body_eq : m.body = r.body.map Json.render

/-- The message of a request to a server. -/
def messageTo (port : UInt16) (client : Http.Client) (r : Request) : Http.Message where
  method := r.method
  url := Server.urlTo port r.path .nobody
  accept := client.accept
  authorization := []
  contentType := r.body.map fun _ => Http.jsonType
  body := r.body.map Json.render

theorem bears_messageTo (port : UInt16) (client : Http.Client) (r : Request) :
    Bears (messageTo port client r) r :=
  ⟨rfl, rfl, rfl, rfl⟩

theorem prepare_of_hosts {port : UInt16} {network : Network} (hnetwork : Server.Hosts port network)
    (client : Http.Client) {r : Request} {first : List Char} {others : List (List Char)}
    (hpath : PlainPath r.path first others) :
    Http.prepare client network r = .ok (messageTo port client r) := by
  have hauthorization : Http.authorizationOf network = .ok none := by
    rw [Http.authorizationOf, hnetwork.1]
  simp only [Http.prepare, urlOf_of_isBase hnetwork.2 client hpath, hauthorization]
  rfl

/-- A request that names the same action whichever way it takes. -/
structure Carries (r : Request) (action : Action) : Prop where
  exists_plainPath : ∃ first others, PlainPath r.path first others
  ofRequest_eq : Action.ofRequest r = .ok action
  ofMessage_eq : ∀ m, Bears m r → Action.ofMessage .boundless m = .ok action

/-- A result that comes through as text: a value, or a rejection whose text does
    not begin with a mark. -/
def Answerable : Except Rejection Json → Prop
  | .ok v => v.Portable Json.Parser.maxDepth
  | .error r => Http.isSuccess r.status = false ∧ r.body.toList.head? ≠ some byteOrderMark

/-- The answer that a result stands for. -/
def answerTo : Except Rejection Json → Answer
  | .ok v => .ok v
  | .error r => .error (.rejected r.status r.body)

theorem transport_eq_answerTo (network : Network) (r : Request) (s : Store) :
    Store.transport network r s = (answerTo (s.handle r).1, (s.handle r).2) := by
  unfold Store.transport
  cases s.handle r with
  | mk result s' =>
    cases result with
    | ok v => rfl
    | error rejection => rfl

/-- The text of replies is in UTF-8, and says so. -/
theorem names_utf8 : Names (some "utf-8") .utf8 := by
  unfold Names
  decide

/-- **The answer to a reply is what the reply was made of.** -/
theorem unpack_ofResult (client : Http.Client) (r : Request) {result : Except Rejection Json}
    (h : Answerable result) :
    Http.unpack client r (Reply.ofResult result).delivery = answerTo result := by
  cases result with
  | ok v =>
    rw [Reply.ofResult, Reply.delivery, Http.unpack,
      Http.bodyText_encode client names_none (Http.head_render_ne_mark _)]
    exact Http.answerOf_render rfl h
  | error rejection =>
    rw [Reply.ofResult, Reply.ofRejection, Reply.ofText, Reply.delivery, Http.unpack,
      Http.bodyText_encode client names_utf8 h.2]
    exact Http.answerOf_rejected h.1 rejection.body

/-- A text is told from a mark by its first character. -/
theorem answerable_text {status : UInt16} (hstatus : Http.isSuccess status = false)
    {lead : String} {c : Char} (hlead : lead.toList.head? = some c) (hc : c ≠ byteOrderMark)
    (rest : String) : Answerable (.error ⟨status, lead ++ rest⟩) := by
  refine ⟨hstatus, ?_⟩
  rw [String.toList_append, List.head?_append, hlead, Option.some_or, ne_eq, Option.some.injEq]
  exact hc

theorem answerable_of_parameter {name : String} {segment : List Char} {rejection : Rejection}
    (h : parameter name segment = .error rejection) : Answerable (.error rejection) := by
  unfold parameter at h
  split at h
  · cases h
  · cases h
    have htext : s!"Invalid URL: Invalid UTF-8 in `{name}`" =
        "Invalid URL: Invalid UTF-8 in `" ++ (name ++ "`") := String.append_assoc
    rw [htext]
    exact answerable_text rfl rfl (by decide) _

theorem answerable_of_bodyValue {intake : Intake} {m : Http.Message} {rejection : Rejection}
    (h : intake.bodyValue m = .error rejection) : Answerable (.error rejection) := by
  unfold Intake.bodyValue at h
  split at h
  · unfold Intake.read at h
    split at h
    · cases h
      exact ⟨rfl, by decide⟩
    · split at h
      · cases h
      · cases h
        exact answerable_text rfl rfl (by decide) _
  · cases h
    exact ⟨rfl, by decide⟩

/-- **What is said of a message that names no action comes through as text.** -/
theorem answerable_of_ofMessage {intake : Intake} {m : Http.Message} {rejection : Rejection}
    (h : Action.ofMessage intake m = .error rejection) : Answerable (.error rejection) := by
  have hpath : Answerable (.error noPath) := ⟨rfl, by decide⟩
  have hmethod : Answerable (.error wrongMethod) := ⟨rfl, by decide⟩
  unfold Action.ofMessage at h
  split at h
  · split at h
    · split at h
      · exact answerable_of_bodyValue (map_eq_error_iff.1 h)
      · cases h
        exact hmethod
    · cases h
      exact hpath
  · split at h
    · split at h
      · exact answerable_of_parameter (map_eq_error_iff.1 h)
      · cases h
        exact hmethod
    · cases h
      exact hpath
  · split at h
    · split at h
      · rcases bind_eq_error_iff.1 h with hid | ⟨id, -, h⟩
        · exact answerable_of_parameter hid
        rcases bind_eq_error_iff.1 h with hkind | ⟨kind, -, h⟩
        · exact answerable_of_parameter hkind
        · cases h
      · cases h
        exact hmethod
    · cases h
      exact hpath
  · cases h
    exact hpath

theorem perform_start (port : UInt16) (action : Action) (s : Store) :
    (Server.start port none none).perform action s = (s.perform action).map .ofResult id := by
  cases action <;> rfl

theorem exchange_messageTo {port : UInt16} {client : Http.Client} {r : Request} {action : Action}
    (hcarries : Carries r action) (s : Store) :
    (Server.start port none none).exchange (messageTo port client r) s =
      ((Reply.ofResult (s.perform action).1).delivery, (s.perform action).2) := by
  have hat : (Server.start port none none).isAt (messageTo port client r).url = true :=
    Server.isAt_urlTo rfl rfl r.path .nobody
  have hright : (Server.start port none none).authorizes (messageTo port client r) = true := rfl
  have haction : Action.ofMessage (Server.start port none none).intake (messageTo port client r) =
      .ok action := hcarries.ofMessage_eq _ (bears_messageTo port client r)
  simp only [Server.exchange]
  rw [if_pos hat]
  simp only [Server.answer, haction, hright, if_true, perform_start]
  rfl

/-- **Over HTTP a server answers as its ledger does in memory.** -/
theorem exchange_eq_transport {port : UInt16} {network : Network}
    (hnetwork : Server.Hosts port network) (client : Http.Client) {r : Request} {action : Action}
    (hcarries : Carries r action) {s : Store} (hforced : s.forced = none)
    (hanswer : Answerable (s.handle r).1) :
    Http.transport client (Server.start port none none).exchange network r s =
      Store.transport network r s := by
  have hhandle := Store.handle_of_action hforced hcarries.ofRequest_eq
  rw [hhandle] at hanswer
  obtain ⟨first, others, hpath⟩ := hcarries.exists_plainPath
  simp only [Http.transport, prepare_of_hosts hnetwork client hpath,
    exchange_messageTo hcarries, unpack_ofResult client r hanswer, transport_eq_answerTo,
    hhandle]

end DidLedger.Ledger
