/-
  DidLedger/Proofs/Ledger/Paths.lean
  ==================================
  **A path leads back to the identifier that was written into it, and to no other.**

  Reads and deletions name their object in the path.  The identifier is coded there
  as one segment, of unreserved characters and escapes, whatever it holds; so the
  ledger finds the segment again and decodes it to the identifier.  Since it can be
  read back, a path also tells its identifier, and a read path its kind: no two
  objects are asked for under the same path.
-/
import DidLedger.Proofs.Ledger.Requests
import DidLedger.Proofs.Url.Plain

namespace DidLedger.Ledger

open DidLedger DidLedger.Text

/-! ### Segments of paths -/

/-- The parts of a path between its slashes. -/
def pathParts (path : String) : List (List Char) :=
  Split.atEvery (· == '/') path.toList

/-- Joined segments without slashes are found again. -/
theorem pathParts_joinSegments {path : String} {segments : List (List Char)}
    (hpath : path.toList = Url.joinSegments segments) (h : ∀ segment ∈ segments, '/' ∉ segment) :
    pathParts path = [] :: segments := by
  rw [pathParts, hpath]
  show Split.atEvery (· == '/') ([] ++ Url.joinSegments segments) = [] :: segments
  apply Url.atEvery_joinSegments rfl
  intro segment hsegment c hc
  rcases List.mem_cons.1 hsegment with rfl | hmem
  · exact absurd hc List.not_mem_nil
  · exact beq_eq_false_iff_ne.2 fun heq => h segment hmem (heq ▸ hc)

/-- **A read path has three segments, and the identifier is the second.** -/
theorem pathParts_readPath (id : String) (kind : Kind) :
    pathParts (readPath id kind) =
      [[], "ReadTransaction".toList, (Percent.encode id).toList, kind.name.toList] := by
  apply pathParts_joinSegments
  · simp [readPath, readRoot, Url.joinSegments]
  · intro segment hsegment
    simp only [List.mem_cons, List.not_mem_nil, or_false] at hsegment
    rcases hsegment with rfl | rfl | rfl
    · decide
    · exact Percent.slash_notMem_encode id
    · cases kind <;> decide

/-- **A deletion path has two segments, and the identifier is the second.** -/
theorem pathParts_deletePath (id : String) :
    pathParts (deletePath id) =
      [[], "DeleteTransaction".toList, (Percent.encode id).toList] := by
  apply pathParts_joinSegments
  · simp [deletePath, deleteRoot, Url.joinSegments]
  · intro segment hsegment
    simp only [List.mem_cons, List.not_mem_nil, or_false] at hsegment
    rcases hsegment with rfl | rfl
    · decide
    · exact Percent.slash_notMem_encode id

/-! ### Paths and objects -/

namespace Store

/-- Equal read paths are about the same object, since the ledger reads them alike. -/
theorem readPath_inj {id id' : String} {kind kind' : Kind}
    (h : readPath id kind = readPath id' kind') : id = id' ∧ kind = kind' := by
  have haction := ofRequest_readPath id kind none
  rw [h, ofRequest_readPath, Except.ok.injEq, Action.read.injEq] at haction
  exact ⟨haction.1.symm, Kind.name_injective haction.2.symm⟩

theorem deletePath_inj {id id' : String} (h : deletePath id = deletePath id') : id = id' := by
  have haction := ofRequest_deletePath id none
  rw [h, ofRequest_deletePath, Except.ok.injEq, Action.delete.injEq] at haction
  exact haction.symm

/-- **What is asked for under a path is what its identifier names.**  A ledger that
    takes requests reads and deletes by a path as by the identifier itself; the
    identifier is one coded segment of the path, and no other object has the same
    path. -/
theorem paths_read_back (id : String) (kind : Kind) :
    (∀ s : Store, s.forced = none → ∀ body,
        s.handle ⟨.get, readPath id kind, body⟩ = s.read id kind.name ∧
          s.handle ⟨.delete, deletePath id, body⟩ = s.delete id) ∧
      Percent.Coded (Percent.encode id).toList ∧
      pathParts (readPath id kind) =
        [[], "ReadTransaction".toList, (Percent.encode id).toList, kind.name.toList] ∧
      pathParts (deletePath id) = [[], "DeleteTransaction".toList, (Percent.encode id).toList] ∧
      (∀ id' kind', readPath id kind = readPath id' kind' → id = id' ∧ kind = kind') ∧
      ∀ id', deletePath id = deletePath id' → id = id' := by
  refine ⟨?_, Percent.coded_encode id, pathParts_readPath id kind, pathParts_deletePath id,
    fun id' kind' => readPath_inj, fun id' => deletePath_inj⟩
  intro s hforced body
  exact ⟨handle_readPath hforced id kind body, handle_deletePath hforced id body⟩

/-- An identifier with a slash, an escape and a space, stored as a nym. -/
theorem paths_read_back_slash :
    let s := (empty .reject).putNym ⟨"did:testnet:a/b%2F c", "K", .null⟩
    s.forced = none ∧
      readPath "did:testnet:a/b%2F c" .nym =
        "/ReadTransaction/did%3Atestnet%3Aa%2Fb%252F%20c/nym" ∧
      s.handle ⟨.get, "/ReadTransaction/did%3Atestnet%3Aa%2Fb%252F%20c/nym", none⟩ =
        s.read "did:testnet:a/b%2F c" "nym" ∧
      s.handle ⟨.delete, "/DeleteTransaction/did%3Atestnet%3Aa%2Fb%252F%20c", none⟩ =
        s.delete "did:testnet:a/b%2F c" := by
  intro s
  have hpath : readPath "did:testnet:a/b%2F c" .nym =
      "/ReadTransaction/did%3Atestnet%3Aa%2Fb%252F%20c/nym" := by rfl
  obtain ⟨hread, hdelete⟩ := (paths_read_back "did:testnet:a/b%2F c" .nym).1 s rfl none
  exact ⟨rfl, hpath, hread, hdelete⟩

end Store
end DidLedger.Ledger
