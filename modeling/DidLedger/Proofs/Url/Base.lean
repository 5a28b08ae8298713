/-
  DidLedger/Proofs/Url/Base.lean
  ==============================
  **A path behind a web address does not change where it leads.**

  A request is sent to the text of a base followed by the text of a path, and the
  two are read as one URL.  If the base with a slash behind it is a web address,
  then so is the base with any path behind it, of the same scheme, user, host and port:
  the scheme ends at a colon and the authority at a slash, and the slash that the
  path begins with comes after both (`parse_append_path`).

  The base may hold what it likes, a query or a fragment included; the path holds
  no blanks and no marks of a query or a fragment.
-/
import DidLedger.Proofs.Except
import DidLedger.Proofs.Url.Plain

namespace DidLedger.Url

open DidLedger.Text

/-! ### Texts with a path behind them -/

/-- A path as it stands behind a base: it begins with a slash, and nothing in it
    is taken for anything but a part of a path. -/
structure IsPath (path : List Char) : Prop where
  head_eq : path.head? = some '/'
  isAddressChar : ∀ c ∈ path, isAddressChar c = true

namespace IsPath

variable {path : List Char}

theorem slash : IsPath ['/'] := by
  refine ⟨rfl, fun c hc => ?_⟩
  rw [List.mem_singleton.1 hc]
  decide

theorem exists_cons (h : IsPath path) : ∃ rest, path = '/' :: rest := by
  cases path with
  | nil => cases h.head_eq
  | cons c rest =>
    have hc := h.head_eq
    rw [List.head?_cons, Option.some.injEq] at hc
    exact ⟨rest, by rw [hc]⟩

theorem blank_lt (h : IsPath path) {c : Char} (hc : c ∈ path) : 0x20 < c.toNat := by
  have haddress := h.isAddressChar c hc
  simp only [Url.isAddressChar, Bool.and_eq_true, decide_eq_true_eq] at haddress
  exact haddress.1.1

theorem hash_notMem (h : IsPath path) : '#' ∉ path :=
  fun hmem => absurd (h.isAddressChar '#' hmem) (by decide)

theorem question_notMem (h : IsPath path) : '?' ∉ path :=
  fun hmem => absurd (h.isAddressChar '?' hmem) (by decide)

end IsPath

/-- The first mark of a text is the same with anything behind it. -/
theorem exists_atFirst?_append {mark : Char} {cs : List Char} (h : mark ∈ cs) :
    ∃ before after, ∀ rest,
      Split.atFirst? (· == mark) (cs ++ rest) = some (before, after ++ rest) := by
  obtain ⟨before, after, rfl, hbefore⟩ := List.eq_append_cons_of_mem h
  refine ⟨before, after, fun rest => ?_⟩
  rw [List.append_assoc, List.cons_append]
  refine Split.atFirst?_append (fun c hc => ?_) (beq_self_eq_true mark)
  rw [beq_eq_false_iff_ne]
  rintro rfl
  exact hbefore hc

/-! ### The parts of an address -/

/-- A path keeps what is in front of it from being trimmed, and is not trimmed
    itself. -/
theorem exists_clean_append (cs : List Char) :
    ∃ front, ∀ path, IsPath path → clean (cs ++ path) = front ++ path := by
  refine ⟨(cs.dropWhile fun c => decide (c.toNat ≤ 0x20)).filter
    fun c => c != '\t' && c != '\n' && c != '\r', ?_⟩
  intro path hpath
  have hkept : path.filter (fun c => c != '\t' && c != '\n' && c != '\r') = path :=
    List.filter_eq_self.2 fun c hc => ne_break_of_blank_lt (hpath.blank_lt hc)
  have hfront : (cs ++ path).dropWhile (fun c => decide (c.toNat ≤ 0x20)) =
      cs.dropWhile (fun c => decide (c.toNat ≤ 0x20)) ++ path := by
    obtain ⟨rest, rfl⟩ := hpath.exists_cons
    exact dropWhile_append_cons (by decide) cs rest
  have hback : ∀ text : List Char, (text ++ path).reverse.dropWhile
      (fun c => decide (c.toNat ≤ 0x20)) = (text ++ path).reverse := by
    intro text
    rcases List.eq_nil_or_concat path with rfl | ⟨init, last, rfl⟩
    · cases hpath.head_eq
    · rw [List.concat_eq_append] at hpath ⊢
      have hlast := not_edge_of_blank_lt (hpath.blank_lt (List.mem_append_right init
        (List.mem_singleton_self last)))
      rw [← List.append_assoc, List.reverse_append, List.reverse_singleton, List.singleton_append]
      exact List.dropWhile_cons_of_neg (by simp [hlast])
  simp only [clean, hfront, hback, List.reverse_reverse, List.filter_append, hkept]

/-- The scheme of a text ends before the path behind it. -/
theorem exists_scheme?_append {front : List Char} {scheme : String} {after : List Char}
    (h : scheme? (front ++ ['/']) = some (scheme, after)) :
    ∃ tail, after = tail ++ ['/'] ∧ ∀ path, scheme? (front ++ path) = some (scheme, tail ++ path) := by
  have hcolon : ':' ∈ front := by
    by_contra hnot
    have hnone : Split.atFirst? (· == ':') (front ++ ['/']) = none := by
      rw [Split.atFirst?_eq_none_iff]
      intro c hc
      rw [beq_eq_false_iff_ne]
      rintro rfl
      rcases List.mem_append.1 hc with hc | hc
      · exact hnot hc
      · exact absurd hc (by decide)
    simp only [scheme?, hnone, Option.bind_eq_bind, Option.bind_none] at h
    cases h
  obtain ⟨before, tail, hcut⟩ := exists_atFirst?_append hcolon
  simp only [scheme?, hcut, Option.bind_eq_bind, Option.bind_some, Option.bind_eq_some_iff] at h ⊢
  obtain ⟨first, hfirst, hscheme⟩ := h
  split at hscheme
  · rename_i hchars
    cases hscheme
    exact ⟨tail, rfl, fun path => ⟨first, hfirst, by rw [if_pos hchars]; rfl⟩⟩
  · cases hscheme

/-- What stands before the fragment and the query. -/
def unmarked (cs : List Char) : List Char :=
  (cutAt '?' (cutAt '#' cs).1).1

/-- A path behind a text is cut off with its query or fragment, or it stays. -/
theorem unmarked_append (cs : List Char) :
    (∃ part, ∀ path, IsPath path → unmarked (cs ++ path) = part) ∨
      ∀ path, IsPath path → unmarked (cs ++ path) = cs ++ path := by
  by_cases hhash : '#' ∈ cs
  · obtain ⟨before, after, hcut⟩ := exists_atFirst?_append hhash
    refine .inl ⟨(cutAt '?' before).1, fun path _ => ?_⟩
    simp only [unmarked, cutAt, hcut]
  · have hwhole : ∀ path, IsPath path → (cutAt '#' (cs ++ path)).1 = cs ++ path := by
      intro path hpath
      rw [cutAt_of_notMem]
      rw [List.mem_append, not_or]
      exact ⟨hhash, hpath.hash_notMem⟩
    by_cases hquestion : '?' ∈ cs
    · obtain ⟨before, after, hcut⟩ := exists_atFirst?_append hquestion
      refine .inl ⟨before, fun path hpath => ?_⟩
      rw [unmarked, hwhole path hpath]
      simp only [cutAt, hcut]
    · refine .inr fun path hpath => ?_
      rw [unmarked, hwhole path hpath, cutAt_of_notMem]
      rw [List.mem_append, not_or]
      exact ⟨hquestion, hpath.question_notMem⟩

/-- The authority in what follows the scheme of a web address. -/
def authorityIn (cs : List Char) : List Char :=
  (cs.dropWhile (isSlash true)).takeWhile fun c => !isSlash true c

/-- An authority ends before the path behind it. -/
theorem authorityIn_append {cs path : List Char} (h : authorityIn (cs ++ ['/']) ≠ [])
    (hpath : IsPath path) : authorityIn (cs ++ path) = authorityIn (cs ++ ['/']) := by
  have hslash : isSlash true '/' = true := rfl
  have hstop : (!isSlash true '/') = false := rfl
  have hends : ∀ rest, authorityIn (cs ++ '/' :: rest) =
      (cs.dropWhile (isSlash true)).takeWhile fun c => !isSlash true c := by
    intro rest
    cases hcs : cs.dropWhile (isSlash true) with
    | nil =>
      -- the text is all slashes, so with one more there is no authority
      refine absurd ?_ h
      simp [authorityIn, List.dropWhile_append, hcs, hslash]
    | cons d ds =>
      have hdrop : (cs ++ '/' :: rest).dropWhile (isSlash true) = (d :: ds) ++ '/' :: rest := by
        rw [List.dropWhile_append, hcs]
        rfl
      rw [authorityIn, hdrop]
      exact takeWhile_append_cons (p := fun c => !isSlash true c) hstop (d :: ds) rest
  obtain ⟨rest, rfl⟩ := hpath.exists_cons
  rw [hends rest, hends []]

/-! ### Whole addresses -/

variable {idna : Idna}

theorem ofParts_web_eq_ok_iff {scheme : String} {port : Nat} (hclass : classOf scheme = .web port)
    {cs : List Char} {query : Option String} {url : Url} :
    ofParts idna scheme cs query = .ok url ↔
      ∃ host p, webAuthority idna port (authorityIn cs) = .ok (host, p) ∧
        ⟨scheme, some host, p, String.ofList (normalizePath true
          ((cs.dropWhile (isSlash true)).dropWhile fun c => !isSlash true c)), query,
          userIn (authorityIn cs)⟩ = url := by
  simp only [ofParts, hclass, bind_eq_ok_iff, pure_eq_ok_iff, Prod.exists]
  rfl

theorem scheme_of_ofParts {scheme : String} {cs : List Char} {query : Option String} {url : Url}
    (h : ofParts idna scheme cs query = .ok url) : url.scheme = scheme := by
  unfold ofParts at h
  split at h
  · simp only [bind_eq_ok_iff, pure_eq_ok_iff] at h
    obtain ⟨a, -, rfl⟩ := h
    rfl
  · split at h
    · split at h
      · simp only [bind_eq_ok_iff, pure_eq_ok_iff] at h
        obtain ⟨a, -, rfl⟩ := h
        rfl
      · cases h
        rfl
    · cases h
      rfl
  · split at h
    · simp only [bind_eq_ok_iff, pure_eq_ok_iff] at h
      obtain ⟨a, -, rfl⟩ := h
      rfl
    · cases h
      rfl
    · cases h
      rfl

theorem parse_of_scheme? (idna : Idna) {s : String} {scheme : String} {rest : List Char}
    (h : scheme? (clean s.toList) = some (scheme, rest)) :
    ∃ query, parse idna s = ofParts idna scheme (unmarked rest) query := by
  refine ⟨(cutAt '?' (cutAt '#' rest).1).2.map fun q => String.ofList (normalizeQuery q), ?_⟩
  simp only [parse, h]
  rfl

/-- What is read of a web address is the authority in its text. -/
theorem parse_web_iff {port : Nat} {scheme : String} (hclass : classOf scheme = .web port)
    {s : String} {rest : List Char} (hscheme : scheme? (clean s.toList) = some (scheme, rest))
    {host : Option Host} {p : Option Nat} {user : User} :
    (∃ url, parse idna s = .ok url ∧ url.scheme = scheme ∧ url.host = host ∧ url.port = p ∧
        url.user = user) ↔
      ∃ h, webAuthority idna port (authorityIn (unmarked rest)) = .ok (h, p) ∧ host = some h ∧
        userIn (authorityIn (unmarked rest)) = user := by
  obtain ⟨query, hparse⟩ := parse_of_scheme? idna hscheme
  rw [hparse]
  simp only [ofParts_web_eq_ok_iff hclass]
  constructor
  · rintro ⟨url, ⟨h, p', hauthority, rfl⟩, -, rfl, rfl, rfl⟩
    exact ⟨h, hauthority, rfl, rfl⟩
  · rintro ⟨h, hauthority, rfl, rfl⟩
    exact ⟨_, ⟨h, p, hauthority, rfl⟩, rfl, rfl, rfl, rfl⟩

/-- What was read has the scheme of its text. -/
theorem exists_scheme?_of_parse {s : String} {url : Url} (h : parse idna s = .ok url) :
    ∃ rest, scheme? (clean s.toList) = some (url.scheme, rest) := by
  cases hscheme : scheme? (clean s.toList) with
  | none =>
    simp only [parse, hscheme] at h
    cases h
  | some found =>
    obtain ⟨scheme, rest⟩ := found
    obtain ⟨query, hparse⟩ := parse_of_scheme? idna hscheme
    rw [hparse] at h
    exact ⟨rest, by rw [scheme_of_ofParts h]⟩

/-- **With a path behind it a web address leads to the same place.** -/
theorem parse_append_path {base path : String} {url : Url} {port : Nat}
    (h : parse idna (base ++ "/") = .ok url) (hclass : classOf url.scheme = .web port)
    (hpath : IsPath path.toList) :
    ∃ url', parse idna (base ++ path) = .ok url' ∧ url'.scheme = url.scheme ∧
      url'.host = url.host ∧ url'.port = url.port ∧ url'.user = url.user := by
  obtain ⟨rest, hscheme⟩ := exists_scheme?_of_parse h
  obtain ⟨front, hclean⟩ := exists_clean_append base.toList
  have hslash : (base ++ "/").toList = base.toList ++ ['/'] := by
    rw [String.toList_append]
    rfl
  have hauthority := (parse_web_iff hclass hscheme).1 ⟨url, h, rfl, rfl, rfl, rfl⟩
  rw [hslash, hclean ['/'] IsPath.slash] at hscheme
  obtain ⟨tail, rfl, htail⟩ := exists_scheme?_append hscheme
  have hscheme' : scheme? (clean (base ++ path).toList) = some (url.scheme, tail ++ path.toList) := by
    rw [String.toList_append, hclean _ hpath, htail]
  apply (parse_web_iff hclass hscheme').2
  obtain ⟨host, hread, hhost, huser⟩ := hauthority
  have hsame : authorityIn (unmarked (tail ++ path.toList)) =
      authorityIn (unmarked (tail ++ ['/'])) := by
    rcases unmarked_append tail with ⟨part, hpart⟩ | hwhole
    · rw [hpart _ hpath, hpart _ IsPath.slash]
    · rw [hwhole _ IsPath.slash] at hread
      have hne : authorityIn (tail ++ ['/']) ≠ [] := by
        intro hnil
        rw [hnil] at hread
        cases hread
      rw [hwhole _ hpath, hwhole _ IsPath.slash, authorityIn_append hne hpath]
  rw [hsame]
  exact ⟨host, hread, hhost, huser⟩

end DidLedger.Url
