/-
  DidLedger/Proofs/Url/Plain.lean
  ===============================
  **Plain addresses are read as they are written.**

  Reading a URL normalizes it: it drops blanks and line breaks, resolves dots,
  escapes what may not stand in a path and cuts a query and a fragment off.  None
  of this happens to a path of plain segments, which hold unreserved characters
  and escapes only and are not dots.  `parse_plain` says so for a web address
  without a query and a fragment.
-/
import DidLedger.Proofs.Text.Front
import DidLedger.Proofs.Text.Percent
import DidLedger.Url.Basic

namespace DidLedger.Url

open DidLedger.Text

/-! ### Segments -/

/-- A segment that is its own normal form. -/
structure PlainSegment (segment : List Char) : Prop where
  isPlain : ∀ c ∈ segment, Percent.isPlain c = true
  not_singleDot : isSingleDot segment = false
  not_doubleDot : isDoubleDot segment = false

instance (segment : List Char) : Decidable (PlainSegment segment) :=
  decidable_of_iff (segment.all Percent.isPlain = true ∧ isSingleDot segment = false ∧
      isDoubleDot segment = false)
    ⟨fun ⟨hplain, hsingle, hdouble⟩ => ⟨List.all_eq_true.1 hplain, hsingle, hdouble⟩,
      fun ⟨hplain, hsingle, hdouble⟩ => ⟨List.all_eq_true.2 hplain, hsingle, hdouble⟩⟩

theorem isSlash_of_isPlain {c : Char} (h : Percent.isPlain c = true) (web : Bool) :
    isSlash web c = false := by
  have hplain : (!isSlash web c) = true :=
    Percent.of_isPlain (p := fun c => !isSlash web c) (by cases web <;> decide +kernel) h
  simpa using hplain

theorem escapeWith_of_isPlain {segment : List Char}
    (h : ∀ c ∈ segment, Percent.isPlain c = true) :
    escapeWith isEscapedInPath segment = segment := by
  have hascii : ∀ n : Fin 128, Percent.isPlain (Char.ofNat n) = true →
      (escapeWith isEscapedInPath [Char.ofNat n] == [Char.ofNat n]) = true := by decide +kernel
  induction segment with
  | nil => rfl
  | cons c segment ih =>
    have hc := Percent.of_isPlain (p := fun c => escapeWith isEscapedInPath [c] == [c]) hascii
      (h c List.mem_cons_self)
    rw [beq_iff_eq] at hc
    have hrest := ih fun d hd => h d (List.mem_cons_of_mem _ hd)
    simp only [escapeWith, List.flatMap_cons, List.flatMap_append, List.flatMap_nil,
      List.append_nil] at hc hrest ⊢
    rw [hc, hrest, List.singleton_append]

/-- Cutting at slashes undoes joining with slashes. -/
theorem atEvery_joinSegments {p : Char → Bool} (hslash : p '/' = true) {first : List Char}
    {segments : List (List Char)} (h : ∀ segment ∈ first :: segments, ∀ c ∈ segment, p c = false) :
    Split.atEvery p (first ++ joinSegments segments) = first :: segments := by
  induction segments generalizing first with
  | nil =>
    rw [joinSegments, List.flatMap_nil, List.append_nil]
    exact Split.atEvery_of_forall (h first List.mem_cons_self)
  | cons second segments ih =>
    have hjoin : joinSegments (second :: segments) = '/' :: (second ++ joinSegments segments) := by
      simp [joinSegments]
    rw [hjoin, Split.atEvery_append (h first List.mem_cons_self) hslash]
    rw [ih fun segment hs => h segment (List.mem_cons_of_mem _ hs)]

theorem resolveDots_of_plain {done segments : List (List Char)}
    (h : ∀ segment ∈ segments, PlainSegment segment) :
    resolveDots done segments = done.reverse ++ segments := by
  induction segments generalizing done with
  | nil => simp [resolveDots]
  | cons segment segments ih =>
    have hs := h segment List.mem_cons_self
    rw [resolveDots, hs.not_doubleDot, hs.not_singleDot, escapeWith_of_isPlain hs.isPlain]
    simp only [Bool.false_eq_true, if_false]
    rw [ih fun other ho => h other (List.mem_cons_of_mem _ ho)]
    simp

/-- **A path of plain segments is its own normal form.** -/
theorem normalizePath_of_plain (web : Bool) {first : List Char} {segments : List (List Char)}
    (h : ∀ segment ∈ first :: segments, PlainSegment segment) :
    normalizePath web (joinSegments (first :: segments)) = joinSegments (first :: segments) := by
  have hjoin : joinSegments (first :: segments) = '/' :: (first ++ joinSegments segments) := by
    simp [joinSegments]
  have hcut := atEvery_joinSegments (p := isSlash web) (by simp [isSlash]) fun segment hs c hc =>
    isSlash_of_isPlain ((h segment hs).isPlain c hc) web
  have hslash : isSlash web '/' = true := by simp [isSlash]
  rw [hjoin]
  simp only [normalizePath, hslash, if_true]
  rw [hcut, resolveDots_of_plain h, List.reverse_nil, List.nil_append, hjoin]

/-! ### Users -/

theorem takeWhile_ne_at {cs : List Char} (h : '@' ∉ cs) (rest : List Char) :
    (cs.reverse ++ rest).takeWhile (· ≠ '@') = cs.reverse ++ rest.takeWhile (· ≠ '@') ∧
      (cs.reverse ++ rest).dropWhile (· ≠ '@') = rest.dropWhile (· ≠ '@') := by
  have hall : ∀ c ∈ cs.reverse, decide (c ≠ '@') = true := by
    intro c hc
    rw [decide_eq_true_eq]
    rintro rfl
    exact h (List.mem_reverse.1 hc)
  exact ⟨List.takeWhile_append_of_pos hall, List.dropWhile_append_of_pos hall⟩

/-- Without a mark there is no user. -/
theorem afterUser_of_notMem {cs : List Char} (h : '@' ∉ cs) : (afterUser cs).1 = cs := by
  have hwhole := (takeWhile_ne_at h []).1
  rw [List.append_nil, List.takeWhile_nil, List.append_nil] at hwhole
  rw [afterUser, hwhole, List.reverse_reverse]

theorem userIn_of_notMem {cs : List Char} (h : '@' ∉ cs) : userIn cs = .nobody := by
  have hwhole := (takeWhile_ne_at h []).2
  rw [List.append_nil, List.dropWhile_nil] at hwhole
  rw [userIn, hwhole]
  rfl

/-- What stands in front of the mark is no part of the host. -/
theorem afterUser_append {cs : List Char} (h : '@' ∉ cs) (user : List Char) :
    (afterUser (user ++ '@' :: cs)).1 = cs := by
  have hfront : (user ++ '@' :: cs).reverse = cs.reverse ++ '@' :: user.reverse := by simp
  rw [afterUser, hfront, (takeWhile_ne_at h _).1]
  simp

/-! ### Whole addresses -/

/-- What stands behind the blank in the order of characters is no break. -/
theorem ne_break_of_blank_lt {c : Char} (h : 0x20 < c.toNat) :
    (c != '\t' && c != '\n' && c != '\r') = true := by
  simp only [Bool.and_eq_true, bne_iff_ne, ne_eq]
  refine ⟨⟨?_, ?_⟩, ?_⟩ <;>
    · rintro rfl
      exact absurd h (by decide)

theorem not_edge_of_blank_lt {c : Char} (h : 0x20 < c.toNat) : decide (c.toNat ≤ 0x20) = false := by
  rw [decide_eq_false_iff_not]
  omega

theorem clean_of_forall {cs : List Char} (h : ∀ c ∈ cs, 0x20 < c.toNat) : clean cs = cs := by
  have hedge : ∀ c ∈ cs, decide (c.toNat ≤ 0x20) = false :=
    fun c hc => not_edge_of_blank_lt (h c hc)
  have hfront : ∀ c ∈ cs.head?, decide (c.toNat ≤ 0x20) = false :=
    fun c hc => hedge c (List.mem_of_mem_head? hc)
  have hback : ∀ c ∈ cs.reverse.head?, decide (c.toNat ≤ 0x20) = false :=
    fun c hc => hedge c (List.mem_reverse.1 (List.mem_of_mem_head? hc))
  simp only [clean]
  rw [dropWhile_of_head hfront, dropWhile_of_head hback, List.reverse_reverse,
    List.filter_eq_self]
  exact fun c hc => ne_break_of_blank_lt (h c hc)

theorem cutAt_of_notMem {mark : Char} {cs : List Char} (h : mark ∉ cs) :
    cutAt mark cs = (cs, none) := by
  have hnone : Split.atFirst? (· == mark) cs = none := by
    rw [Split.atFirst?_eq_none_iff]
    intro c hc
    exact beq_eq_false_iff_ne.2 fun heq => h (heq ▸ hc)
  simp only [cutAt, hnone]

/-- What may stand in an authority and in a path and is not taken for anything
    else there. -/
def isAddressChar (c : Char) : Bool :=
  decide (0x20 < c.toNat) && c != '#' && c != '?'

theorem isAddressChar_of_mem_joinSegments {segments : List (List Char)}
    (h : ∀ segment ∈ segments, PlainSegment segment) {c : Char} (hc : c ∈ joinSegments segments) :
    isAddressChar c = true := by
  rw [joinSegments, List.mem_flatMap] at hc
  obtain ⟨segment, hs, hc⟩ := hc
  rcases List.mem_cons.1 hc with rfl | hc
  · rfl
  · exact Percent.of_isPlain (by decide +kernel) ((h segment hs).isPlain c hc)

/-- The authority ends where the path begins. -/
theorem ofParts_http {idna : Idna} {authority path : List Char} {host : Host} {port : Option Nat}
    (hauthority : webAuthority idna 80 authority = .ok (host, port))
    (hslash : ∀ c ∈ authority, isSlash true c = false)
    (hpath : ∀ c ∈ path.head?, isSlash true c = true) :
    ofParts idna "http" ('/' :: '/' :: (authority ++ path)) none =
      .ok ⟨"http", some host, port, String.ofList (normalizePath true path), none,
        userIn authority⟩ := by
  have hclass : classOf "http" = .web 80 := rfl
  have hdrop :
      ('/' :: '/' :: (authority ++ path)).dropWhile (isSlash true) = authority ++ path := by
    cases authority with
    | nil => cases hauthority
    | cons c authority =>
      rw [List.dropWhile_cons_of_pos rfl, List.dropWhile_cons_of_pos rfl, List.cons_append,
        List.dropWhile_cons_of_neg (by simp [hslash c List.mem_cons_self])]
  have hfront : ∀ c ∈ authority, (!isSlash true c) = true := by
    intro c hc
    rw [hslash c hc, Bool.not_false]
  have hstop : ∀ c ∈ path.head?, (!isSlash true c) = false := by
    intro c hc
    rw [hpath c hc, Bool.not_true]
  simp only [ofParts, hclass, hdrop, takeWhile_append_of_head hfront hstop,
    dropWhile_append_of_head hfront hstop, hauthority]
  rfl

/-- **A web address with a path of plain segments is read as it is written.** -/
theorem parse_plain {idna : Idna} {authority first : List Char} {segments : List (List Char)}
    {host : Host} {port : Option Nat} (hauthority : webAuthority idna 80 authority = .ok (host, port))
    (hchars : ∀ c ∈ authority, isAddressChar c = true ∧ isSlash true c = false)
    (hsegments : ∀ segment ∈ first :: segments, PlainSegment segment) :
    parse idna
        (String.ofList ("http://".toList ++ (authority ++ joinSegments (first :: segments)))) =
      .ok ⟨"http", some host, port, String.ofList (joinSegments (first :: segments)), none,
        userIn authority⟩ := by
  have hall : ∀ c ∈ "http://".toList ++ (authority ++ joinSegments (first :: segments)),
      isAddressChar c = true := by
    intro c hc
    rcases List.mem_append.1 hc with hc | hc
    · have hscheme : ∀ c ∈ "http://".toList, isAddressChar c = true :=
        List.all_eq_true.1 (by decide)
      exact hscheme c hc
    rcases List.mem_append.1 hc with hc | hc
    · exact (hchars c hc).1
    · exact isAddressChar_of_mem_joinSegments hsegments hc
  -- so nothing is trimmed away, and there is no fragment and no query to cut off
  simp only [isAddressChar, Bool.and_eq_true, decide_eq_true_eq, bne_iff_ne] at hall
  have hscheme : scheme? ("http://".toList ++ (authority ++ joinSegments (first :: segments))) =
      some ("http", '/' :: '/' :: (authority ++ joinSegments (first :: segments))) := rfl
  have hmem : ∀ c ∈ '/' :: '/' :: (authority ++ joinSegments (first :: segments)),
      c ∈ "http://".toList ++ (authority ++ joinSegments (first :: segments)) := by
    intro c hc
    exact List.mem_append_right "http:".toList hc
  have hfragment := cutAt_of_notMem fun hc => (hall '#' (hmem _ hc)).1.2 rfl
  have hquery := cutAt_of_notMem fun hc => (hall '?' (hmem _ hc)).2 rfl
  have hpath : ∀ c ∈ (joinSegments (first :: segments)).head?, isSlash true c = true := by
    intro c hc
    cases hc
    rfl
  have hparts := ofParts_http hauthority (fun c hc => (hchars c hc).2) hpath
  rw [normalizePath_of_plain true hsegments] at hparts
  simp only [parse, String.toList_ofList, clean_of_forall fun c hc => (hall c hc).1.1, hscheme,
    hfragment, hquery, Option.map_none]
  exact hparts

end DidLedger.Url
