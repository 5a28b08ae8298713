/-
  DidLedger/Proofs/Http/Target.lean
  =================================
  **The path of a request comes through the URL as it is written.**

  The path is put behind the base URL as text, and the whole is read again as a URL,
  which resolves dots, cuts off queries and escapes characters.  Behind a base with
  unreserved segments (`Base.Valid`) none of this happens: its segments are plain, and
  those of a path that names a DID are plain as well, whatever the DID holds
  (`urlOf_base`).  So the request line names the path of the base and the path of the
  request, and both the DID and what is asked of it can be told from it.
-/
import DidLedger.Proofs.Http.Contract
import DidLedger.Proofs.Ledger.Emulation
import DidLedger.Proofs.Ledger.Paths

namespace DidLedger

open DidLedger.Ledger DidLedger.Text DidLedger.Url

/-! ### Paths that name an object -/

namespace Ledger

/-- What a path names an object for. -/
inductive Purpose where
  | read (kind : Kind)
  | delete
deriving DecidableEq, Repr

namespace Purpose

def path (id : String) : Purpose → String
  | .read kind => readPath id kind
  | .delete => deletePath id

/-- The segments of the path. -/
def segments (id : String) : Purpose → List (List Char)
  | .read kind => ["ReadTransaction".toList, (Percent.encode id).toList, kind.name.toList]
  | .delete => ["DeleteTransaction".toList, (Percent.encode id).toList]

theorem toList_path (id : String) (purpose : Purpose) :
    (purpose.path id).toList = joinSegments (purpose.segments id) := by
  cases purpose with
  | read kind => simp [path, segments, readPath, readRoot, joinSegments]
  | delete => simp [path, segments, deletePath, deleteRoot, joinSegments]

/-- The identifier is the second segment. -/
theorem getElem?_segments (id : String) (purpose : Purpose) :
    (purpose.segments id)[1]? = some (Percent.encode id).toList := by
  cases purpose <;> rfl

theorem plainSegment_of_mem {did : String} {parsed : Did} (h : Did.parse? did = some parsed)
    (purpose : Purpose) : ∀ segment ∈ purpose.segments did, PlainSegment segment := by
  cases purpose with
  | read kind => exact (plainPath_readPath h kind).plain
  | delete => exact (plainPath_deletePath h).plain

/-- **A path tells the object that it names, and what for.** -/
theorem path_inj {id id' : String} {purpose purpose' : Purpose}
    (h : purpose.path id = purpose'.path id') : id = id' ∧ purpose = purpose' := by
  have hparts := congrArg pathParts h
  cases purpose with
  | read kind =>
    cases purpose' with
    | read kind' =>
      obtain ⟨rfl, rfl⟩ := Store.readPath_inj h
      exact ⟨rfl, rfl⟩
    | delete => simp [path, pathParts_readPath, pathParts_deletePath] at hparts
  | delete =>
    cases purpose' with
    | read kind' => simp [path, pathParts_readPath, pathParts_deletePath] at hparts
    | delete => exact ⟨Store.deletePath_inj h, rfl⟩

end Purpose
end Ledger

/-! ### Unreserved segments -/

namespace Url

/-- A segment of unreserved characters that is not empty and does not consist of one or
    two dots. -/
structure Unreserved (segment : List Char) : Prop where
  chars : ∀ c ∈ segment, c.isAlphanum = true ∨ c ∈ ['-', '.', '_', '~']
  ne_nil : segment ≠ []
  ne_dot : segment ≠ ['.']
  ne_dots : segment ≠ ['.', '.']

instance (segment : List Char) : Decidable (Unreserved segment) :=
  decidable_of_iff
    ((segment.all fun c => c.isAlphanum || ['-', '.', '_', '~'].contains c) = true ∧
      segment ≠ [] ∧ segment ≠ ['.'] ∧ segment ≠ ['.', '.'])
    ⟨fun ⟨hchars, hnil, hdot, hdots⟩ =>
        ⟨fun c hc => by simpa using List.all_eq_true.1 hchars c hc, hnil, hdot, hdots⟩,
      fun ⟨hchars, hnil, hdot, hdots⟩ =>
        ⟨List.all_eq_true.2 fun c hc => by simpa using hchars c hc, hnil, hdot, hdots⟩⟩

theorem toNat_lt_of_isAlphanum {c : Char} (h : c.isAlphanum = true) : c.toNat < 128 := by
  rcases Bool.or_eq_true_iff.1 h with hletter | hdigit
  · rcases Bool.or_eq_true_iff.1 hletter with hupper | hlower
    · have hlast : c.toNat ≤ 'Z'.toNat := (of_decide_eq_true hupper).2
      exact Nat.lt_of_le_of_lt hlast (by decide)
    · have hlast : c.toNat ≤ 'z'.toNat := of_decide_eq_true (Bool.and_eq_true_iff.1 hlower).2
      exact Nat.lt_of_le_of_lt hlast (by decide)
  · have hlast : c.toNat ≤ '9'.toNat := (Char.isDigit_iff_toNat.1 hdigit).2
    exact Nat.lt_of_le_of_lt hlast (by decide)

theorem isPlain_of_unreserved {c : Char} (h : c.isAlphanum = true ∨ c ∈ ['-', '.', '_', '~']) :
    Percent.isPlain c = true ∧ c ≠ '%' := by
  have hall : ∀ n : Fin 128,
      (Char.ofNat n).isAlphanum = true ∨ Char.ofNat n ∈ ['-', '.', '_', '~'] →
        Percent.isPlain (Char.ofNat n) = true ∧ Char.ofNat n ≠ '%' := by decide +kernel
  have hmarks : ∀ d ∈ ['-', '.', '_', '~'], d.toNat < 128 := by simp
  have hlt : c.toNat < 128 := h.elim toNat_lt_of_isAlphanum (hmarks c)
  have hc := hall ⟨c.toNat, hlt⟩
  simp only [Char.ofNat_toNat] at hc
  exact hc h

/-- Without escapes, what consists of dots is dots. -/
theorem eq_replicate_of_dots? {segment : List Char} {n : Nat} (hescape : '%' ∉ segment)
    (h : dots? segment = some n) : segment = List.replicate n '.' := by
  induction segment using dots?.induct generalizing n with
  | case1 =>
    cases h
    rfl
  | case2 rest ih =>
    obtain ⟨k, hk, rfl⟩ := Option.map_eq_some_iff.1 h
    rw [List.replicate_succ, ← ih (fun hmem => hescape (List.mem_cons_of_mem _ hmem)) hk]
  | case3 rest ih => exact absurd List.mem_cons_self hescape
  | case4 rest ih => exact absurd List.mem_cons_self hescape
  | case5 cs hnil hdot hlower hupper => simp_all [dots?]

theorem joinSegments_append (front back : List (List Char)) :
    joinSegments (front ++ back) = joinSegments front ++ joinSegments back :=
  List.flatMap_append

namespace Unreserved

variable {segment : List Char}

theorem escape_notMem (h : Unreserved segment) : '%' ∉ segment :=
  fun hmem => (isPlain_of_unreserved (h.chars '%' hmem)).2 rfl

theorem slash_notMem (h : Unreserved segment) : '/' ∉ segment := by
  intro hmem
  have hplain := (isPlain_of_unreserved (h.chars '/' hmem)).1
  exact absurd hplain (by decide)

theorem plainSegment (h : Unreserved segment) : PlainSegment segment where
  isPlain c hc := (isPlain_of_unreserved (h.chars c hc)).1
  not_singleDot := by
    rw [isSingleDot, beq_eq_false_iff_ne]
    exact fun hdots => h.ne_dot (eq_replicate_of_dots? h.escape_notMem hdots)
  not_doubleDot := by
    rw [isDoubleDot, beq_eq_false_iff_ne]
    exact fun hdots => h.ne_dots (eq_replicate_of_dots? h.escape_notMem hdots)

end Unreserved
end Url

/-! ### Base URLs -/

namespace Http

/-- The parts of a base URL: a host with its port if there is one, the segments of a path,
    and the number of slashes behind it. -/
structure Base where
  authority : List Char
  segments : List (List Char)
  slashes : Nat

namespace Base

/-- The path without the slashes behind it. -/
def path (base : Base) : String :=
  String.ofList (joinSegments base.segments)

/-- The base URL without the slashes behind it. -/
def trimmed (base : Base) : String :=
  String.ofList ("http://".toList ++ (base.authority ++ joinSegments base.segments))

def url (base : Base) : String :=
  base.trimmed ++ String.ofList (List.replicate base.slashes '/')

/-- The authority names a host and ends before the path, and the path is unreserved. -/
structure Valid (idna : Idna) (base : Base) : Prop where
  authority : ∃ host port, webAuthority idna 80 base.authority = .ok (host, port)
  chars : ∀ c ∈ base.authority, isAddressChar c = true ∧ isSlash true c = false
  segments : ∀ segment ∈ base.segments, Unreserved segment

variable {idna : Idna} {base : Base}

theorem Valid.getLast?_trimmed (h : base.Valid idna) : base.trimmed.toList.getLast? ≠ some '/' := by
  -- the text ends in the last segment, or in the authority if there is none
  have hends : ∃ front back, base.authority ++ joinSegments base.segments = front ++ back ∧
      back ≠ [] ∧ '/' ∉ back := by
    rcases List.eq_nil_or_concat base.segments with hnil | ⟨front, last, hsegments⟩
    · refine ⟨[], base.authority, ?_, ?_, ?_⟩
      · simp [hnil, joinSegments]
      · intro hempty
        obtain ⟨host, port, hauthority⟩ := h.authority
        rw [hempty] at hauthority
        cases hauthority
      · intro hmem
        exact absurd (h.chars '/' hmem).2 (by decide)
    · have hlast := h.segments last (by simp [hsegments])
      refine ⟨base.authority ++ (joinSegments front ++ ['/']), last, ?_, hlast.ne_nil,
        hlast.slash_notMem⟩
      rw [hsegments, List.concat_eq_append, joinSegments_append]
      simp [joinSegments]
  obtain ⟨front, back, htext, hne, hslash⟩ := hends
  -- the scheme stays a variable, so that it is not computed
  have hlast : ∀ lead : List Char, (String.ofList
      (lead ++ (base.authority ++ joinSegments base.segments))).toList.getLast? ≠ some '/' := by
    intro lead
    rw [String.toList_ofList, htext, ← List.append_assoc, List.getLast?_append_of_ne_nil _ hne]
    exact fun hlast => hslash (List.mem_of_getLast? hlast)
  exact hlast _

theorem Valid.trimBase_url (h : base.Valid idna) : trimBase base.url = base.trimmed :=
  trimBase_append_slashes h.getLast?_trimmed base.slashes

end Base

variable {idna : Idna} {base : Base} {network : Network} {did : String} {parsed : Did}

/-! ### Targets -/

theorem toList_target (base : Base) (id : String) (purpose : Purpose) :
    (base.path ++ purpose.path id).toList = joinSegments (base.segments ++ purpose.segments id) := by
  rw [String.toList_append, Purpose.toList_path, Base.path, String.toList_ofList,
    joinSegments_append]

theorem plainSegment_of_mem_target (hbase : base.Valid idna) (hdid : Did.parse? did = some parsed)
    (purpose : Purpose) :
    ∀ segment ∈ base.segments ++ purpose.segments did, PlainSegment segment := by
  intro segment hmem
  rcases List.mem_append.1 hmem with hmem | hmem
  · exact (hbase.segments segment hmem).plainSegment
  · exact purpose.plainSegment_of_mem hdid segment hmem

/-- **A path that names a DID is read as it is written, behind the path of the base.** -/
theorem urlOf_base {client : Client} (hbase : base.Valid client.idna)
    (hnetwork : network.baseUrl = base.url) (hdid : Did.parse? did = some parsed)
    (purpose : Purpose) :
    ∃ host port user, urlOf client network (purpose.path did) =
      .ok ⟨"http", some host, port, base.path ++ purpose.path did, none, user⟩ := by
  obtain ⟨host, port, hauthority⟩ := hbase.authority
  have hplain := plainSegment_of_mem_target hbase hdid purpose
  have htarget := toList_target base did purpose
  have hne : base.segments ++ purpose.segments did ≠ [] := by
    cases purpose <;> simp [Purpose.segments]
  obtain ⟨first, rest, hsegments⟩ := List.exists_cons_of_ne_nil hne
  rw [hsegments] at hplain htarget
  have hparse := parse_plain hauthority hbase.chars hplain
  rw [← htarget, String.ofList_toList] at hparse
  -- the scheme stays a variable, so that it is not computed
  have htext : ∀ lead : List Char,
      String.ofList (lead ++ (base.authority ++ joinSegments base.segments)) ++
          purpose.path did =
        String.ofList (lead ++ (base.authority ++ (base.path ++ purpose.path did).toList)) := by
    intro lead
    rw [← String.toList_inj]
    simp [Base.path]
  refine ⟨host, port, userIn base.authority, urlOf_eq_ok_iff.2 ?_⟩
  rw [hnetwork, hbase.trimBase_url]
  exact (congrArg (Url.parse client.idna) (htext _)).trans hparse

/-- The parts of a target, of which the identifier is the second behind the base. -/
theorem pathParts_target (hbase : base.Valid idna) (hdid : Did.parse? did = some parsed)
    (purpose : Purpose) :
    pathParts (base.path ++ purpose.path did) =
      [] :: (base.segments ++ purpose.segments did) := by
  refine pathParts_joinSegments (toList_target base did purpose) fun segment hmem hslash => ?_
  have hplain := (plainSegment_of_mem_target hbase hdid purpose segment hmem).isPlain '/' hslash
  exact absurd hplain (by decide)

theorem getElem?_pathParts_target (hbase : base.Valid idna) (hdid : Did.parse? did = some parsed)
    (purpose : Purpose) :
    (pathParts (base.path ++ purpose.path did))[base.segments.length + 2]? =
      some (Percent.encode did).toList := by
  rw [pathParts_target hbase hdid, List.getElem?_cons_succ, List.getElem?_append_right (by omega),
    Nat.add_sub_cancel_left]
  exact purpose.getElem?_segments did

theorem target_inj {did' : String} {purpose purpose' : Purpose}
    (h : base.path ++ purpose'.path did' = base.path ++ purpose.path did) :
    did' = did ∧ purpose' = purpose := by
  rw [← String.toList_inj, String.toList_append, String.toList_append, List.append_cancel_left_eq,
    String.toList_inj] at h
  exact Purpose.path_inj h

/-! ### Requests that are sent -/

variable {σ : Type}

/-- **The request line names the path of the base and the path of the request, as they are
    written, and tells the DID.** -/
theorem sends_written_path (client : Client) (hbase : base.Valid client.idna)
    (hnetwork : network.baseUrl = base.url) (hdid : Did.parse did = .ok parsed) (purpose : Purpose)
    {request : Request} (hrequest : request.path = purpose.path did) (exchange : Exchange σ)
    (s : σ) :
    let target := base.path ++ purpose.path did
    let sent := (transport client exchange.recorded network request (s, [])).2.2
    (∀ message delivery, (message, delivery) ∈ sent →
        message.url.target = target ∧ message.url.query = none) ∧
      ((∀ token, network.authToken = some token → isHeaderValue token = true) →
        sent.length = 1) ∧
      (∃ segment, (pathParts target)[base.segments.length + 2]? = some segment ∧
        Percent.decode? (String.ofList segment) = .ok did) ∧
      ∀ did' purpose', base.path ++ purpose'.path did' = target →
        did' = did ∧ purpose' = purpose := by
  intro target sent
  have hparsed := Did.parse_eq_ok_iff.1 hdid
  obtain ⟨host, port, user, hurl⟩ := urlOf_base hbase hnetwork hparsed purpose
  rw [← hrequest, urlOf_eq_ok_iff] at hurl
  refine ⟨?_, ?_, ⟨_, getElem?_pathParts_target hbase hparsed purpose, ?_⟩,
    fun did' purpose' => target_inj⟩
  · intro message delivery hmem
    obtain ⟨url, hparse, hmessage⟩ := conveys_of_mem_sent hmem
    rw [hurl, Except.ok.injEq] at hparse
    obtain ⟨nobody, hanonymous⟩ := exists_anonymous_eq url
    rw [hmessage.url_eq, hanonymous, ← hparse]
    exact ⟨hrequest ▸ rfl, rfl⟩
  · intro htoken
    obtain ⟨message, hprepare⟩ := exists_prepare_iff.2 ⟨⟨_, hurl, .inl rfl⟩, htoken⟩
    simp [sent, recorded_of_prepare hprepare]
  · rw [String.ofList_toList, Percent.decode?_encode]

/-- A DID with dots, a query, a fragment and an escape, behind a base with a port and a
    segment of three dots. -/
theorem sends_written_path_dots :
    let base : Base := ⟨"[::1]:8080".toList, ["v1".toList, "...".toList], 2⟩
    let network := Network.new "testnet" "http://[::1]:8080/v1/...//"
    let request : Request := ⟨.get, readPath "did:testnet:a/../b?c#d%2F é" .nym, none⟩
    let exchange : Exchange Unit := unreachable
    let client : Client := .json .plain
    let sent := (transport client exchange.recorded network request ((), [])).2.2
    base.Valid client.idna ∧ network.baseUrl = base.url ∧
      ∃ message delivery, sent = [(message, delivery)] ∧ message.url.query = none ∧
        message.url.target =
          "/v1/.../ReadTransaction/did%3Atestnet%3Aa%2F..%2Fb%3Fc%23d%252F%20%C3%A9/nym" := by
  intro base network request exchange client sent
  have hchars : ∀ c ∈ base.authority, (isAddressChar c && !isSlash true c) = true :=
    List.all_eq_true.1 (by decide)
  have hsegments : Unreserved "v1".toList ∧ Unreserved "...".toList := by decide
  have hbase : base.Valid client.idna := by
    refine ⟨⟨.ipv6 [0, 0, 0, 0, 0, 0, 0, 1], some 8080, by rfl⟩, fun c hc => ?_,
      List.forall_iff_forall_mem.1 hsegments⟩
    simpa using hchars c hc
  have hdid : Did.parse "did:testnet:a/../b?c#d%2F é" =
      .ok ⟨"testnet", "a/../b?c#d%2F é"⟩ := by rfl
  have hnetwork : network.baseUrl = base.url := by rfl
  have hrequest : request.path = Purpose.path "did:testnet:a/../b?c#d%2F é" (.read .nym) := rfl
  have htext : base.path ++ Purpose.path "did:testnet:a/../b?c#d%2F é" (.read .nym) =
      "/v1/.../ReadTransaction/did%3Atestnet%3Aa%2F..%2Fb%3Fc%23d%252F%20%C3%A9/nym" := by rfl
  obtain ⟨htarget, hlength, -, -⟩ := sends_written_path client hbase hnetwork hdid (.read .nym)
    hrequest exchange ()
  have hone : sent.length = 1 := hlength nofun
  obtain ⟨⟨message, delivery⟩, hsent⟩ := List.length_eq_one_iff.1 hone
  have hmem : (message, delivery) ∈ sent := by
    rw [hsent]
    exact List.mem_singleton_self _
  obtain ⟨hline, hquery⟩ := htarget message delivery hmem
  exact ⟨hbase, hnetwork, message, delivery, hsent, hquery, hline.trans htext⟩

end Http
end DidLedger
