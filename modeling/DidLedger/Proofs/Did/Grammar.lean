/-
  DidLedger/Proofs/Did/Grammar.lean
  =================================
  **A text is a DID in at most one way.**

  A DID is well formed when its network is not empty and holds no colon and its
  identifier is not empty and holds no line feed.  Reading accepts the texts of
  the well-formed DIDs and gives back their parts (`parse?_eq_some_iff`): since
  the network holds no colon, the second colon of the text is where the network
  ends, and the identifier is all the rest, colons included.

  Writing and reading are inverse to each other on the well-formed DIDs
  (`parse_inverts_display`).  The text of a DID that is not well formed can still
  be read, but as another DID only if a colon in its network moves the cut.
-/
import DidLedger.Did

namespace DidLedger.Did

open DidLedger.Text

/-- The parts of a DID are what a text can hold in their places. -/
structure WellFormed (d : Did) : Prop where
  network_ne_empty : d.network ≠ ""
  colon_notMem : ':' ∉ d.network.toList
  id_ne_empty : d.id ≠ ""
  lineFeed_notMem : '\n' ∉ d.id.toList

theorem toList_display (d : Did) :
    d.display.toList = "did:".toList ++ (d.network.toList ++ ':' :: d.id.toList) := by
  simp only [display, String.toList_append, List.append_assoc]
  rfl

theorem isEmpty_toList_iff {s : String} : s.toList.isEmpty = false ↔ s ≠ "" := by
  rw [← Bool.not_eq_true, List.isEmpty_iff, ne_eq, String.toList_eq_nil_iff]

/-- A network without a colon ends at the first colon behind it. -/
theorem atFirst?_colon {network : String} (h : ':' ∉ network.toList) (id : List Char) :
    Split.atFirst? (· == ':') (network.toList ++ ':' :: id) = some (network.toList, id) := by
  apply Split.atFirst?_append _ rfl
  intro x hx
  exact beq_eq_false_iff_ne.2 fun heq => h (heq ▸ hx)

/-- The text of a well-formed DID is cut where its network ends. -/
theorem parse?_display {d : Did} (h : d.WellFormed) : parse? d.display = some d := by
  have hafter : Split.after? "did:".toList d.display.toList =
      some (d.network.toList ++ ':' :: d.id.toList) :=
    Split.after?_eq_some_iff.2 (toList_display d)
  have hcut := atFirst?_colon h.colon_notMem d.id.toList
  have hnetwork := isEmpty_toList_iff.2 h.network_ne_empty
  have hid := isEmpty_toList_iff.2 h.id_ne_empty
  have hline : d.id.toList.contains '\n' = false := by
    simpa using h.lineFeed_notMem
  simp only [parse?, hafter, Option.bind_eq_bind, Option.bind_some, hcut, hnetwork, hid, hline,
    String.ofList_toList, Bool.or_self, Bool.false_eq_true, if_false]

/-- What reading accepts is the text of a well-formed DID. -/
theorem display_of_parse? {s : String} {d : Did} (h : parse? s = some d) :
    s = d.display ∧ d.WellFormed := by
  simp only [parse?, Option.bind_eq_bind, Option.bind_eq_some_iff] at h
  obtain ⟨rest, hafter, ⟨network, id⟩, hcut, hd⟩ := h
  obtain ⟨c, rfl, hc, hcolon⟩ := Split.exists_of_atFirst? hcut
  have hs := Split.after?_eq_some_iff.1 hafter
  rw [beq_iff_eq] at hc
  subst hc
  split at hd
  · exact absurd hd (by simp)
  · rename_i hparts
    simp only [Bool.or_eq_true, List.isEmpty_iff, List.contains_iff_mem, not_or] at hparts
    obtain ⟨⟨hnetwork, hid⟩, hline⟩ := hparts
    rw [Option.some.injEq] at hd
    subst hd
    -- the network is cut off at the first colon, so it holds none
    refine ⟨?_, ?_, ?_, ?_, ?_⟩
    · rw [← String.toList_inj, toList_display, hs]
      simp
    · simpa [← String.toList_eq_nil_iff] using hnetwork
    · intro hmem
      rw [String.toList_ofList] at hmem
      exact absurd (hcolon ':' hmem) (by simp)
    · simpa [← String.toList_eq_nil_iff] using hid
    · simpa using hline

/-- **Reading accepts exactly the texts of the well-formed DIDs.** -/
theorem parse?_eq_some_iff {s : String} {d : Did} :
    parse? s = some d ↔ s = d.display ∧ d.WellFormed := by
  constructor
  · exact display_of_parse?
  · rintro ⟨rfl, hd⟩
    exact parse?_display hd

/-- Two DIDs with the same text are the same if no network holds a colon: both
    texts are cut at their first colon. -/
theorem eq_of_display_eq {d e : Did} (hd : ':' ∉ d.network.toList) (he : ':' ∉ e.network.toList)
    (h : d.display = e.display) : d = e := by
  have htext := congrArg String.toList h
  rw [toList_display, toList_display] at htext
  have hcut := atFirst?_colon hd d.id.toList
  rw [List.append_cancel_left htext, atFirst?_colon he, Option.some.injEq, Prod.mk.injEq,
    String.toList_inj, String.toList_inj] at hcut
  cases d
  cases e
  rw [mk.injEq]
  exact ⟨hcut.1.symm, hcut.2.symm⟩

/-- A DID whose text is read with the same network is read as it is. -/
theorem eq_of_parse?_display {d e : Did} (h : parse? d.display = some e)
    (hnetwork : e.network = d.network) : e = d := by
  obtain ⟨htext, -⟩ := display_of_parse? h
  have hlists := congrArg String.toList htext
  rw [toList_display, toList_display, hnetwork] at hlists
  have hid := List.append_cancel_left (List.append_cancel_left hlists)
  rw [List.cons_inj_right, String.toList_inj] at hid
  cases d
  cases e
  rw [mk.injEq]
  exact ⟨hnetwork, hid.symm⟩

theorem parse_eq_ok_iff {s : String} {d : Did} : parse s = .ok d ↔ parse? s = some d := by
  unfold parse
  cases parse? s with
  | none => simp
  | some e => simp

theorem parse_display_iff {d : Did} : parse d.display = .ok d ↔ d.WellFormed := by
  rw [parse_eq_ok_iff, parse?_eq_some_iff]
  exact and_iff_right rfl

/-- **Reading accepts its grammar, with one reading of each text, and is inverse to
    writing.**  Where the text of a DID is read as another DID, its network holds a
    colon. -/
theorem parse_inverts_display :
    (∀ s, (∃ d, parse s = .ok d) ↔ ∃ n i, s = "did:" ++ n ++ ":" ++ i ∧ WellFormed ⟨n, i⟩) ∧
      (∀ s d, parse s = .ok d → d.display = s ∧
        ∀ n i, (s = "did:" ++ n ++ ":" ++ i ∧ WellFormed ⟨n, i⟩) ↔ d = ⟨n, i⟩) ∧
      (∀ n i, parse (display ⟨n, i⟩) = .ok ⟨n, i⟩ ↔ WellFormed ⟨n, i⟩) ∧
      ∀ n i e, parse (display ⟨n, i⟩) = .ok e → e ≠ ⟨n, i⟩ → ':' ∈ n.toList := by
  refine ⟨?_, ?_, fun n i => parse_display_iff, ?_⟩
  · intro s
    simp only [parse_eq_ok_iff, parse?_eq_some_iff]
    constructor
    · rintro ⟨d, htext, hd⟩
      exact ⟨d.network, d.id, htext, hd⟩
    · rintro ⟨n, i, htext, hd⟩
      exact ⟨⟨n, i⟩, htext, hd⟩
  · intro s d hparse
    obtain ⟨rfl, hd⟩ := parse?_eq_some_iff.1 (parse_eq_ok_iff.1 hparse)
    refine ⟨rfl, fun n i => ?_⟩
    constructor
    · rintro ⟨htext, hsplit⟩
      exact eq_of_display_eq hd.colon_notMem hsplit.colon_notMem htext
    · rintro rfl
      exact ⟨rfl, hd⟩
  · intro n i e hparse hne
    obtain ⟨htext, he⟩ := parse?_eq_some_iff.1 (parse_eq_ok_iff.1 hparse)
    by_cases hcolon : ':' ∈ n.toList
    · exact hcolon
    · exact absurd (eq_of_display_eq he.colon_notMem hcolon htext.symm) hne

/-- Colons in either part: there is one reading, and it is not the one written. -/
theorem parse_inverts_display_colons :
    parse "did:a:b:c" = .ok ⟨"a", "b:c"⟩ ∧ parse (display ⟨"a:b", "c"⟩) = .ok ⟨"a", "b:c"⟩ ∧
      (∀ n i, ("did:a:b:c" = "did:" ++ n ++ ":" ++ i ∧ WellFormed ⟨n, i⟩) ↔
        Did.mk "a" "b:c" = ⟨n, i⟩) ∧ ':' ∈ "a:b".toList := by
  have hread : parse "did:a:b:c" = .ok ⟨"a", "b:c"⟩ := by rfl
  have hwritten : parse (display ⟨"a:b", "c"⟩) = .ok ⟨"a", "b:c"⟩ := by rfl
  obtain ⟨-, hunique, -, hcause⟩ := parse_inverts_display
  exact ⟨hread, hwritten, (hunique _ _ hread).2, hcause _ _ _ hwritten (by decide)⟩

end DidLedger.Did
