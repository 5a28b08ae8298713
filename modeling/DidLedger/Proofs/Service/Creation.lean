/-
  DidLedger/Proofs/Service/Creation.lean
  ======================================
  **Which identifiers can be created on a loaded network.**

  A creation reads the DID that it has put together once more, and it takes any
  failure there for a fault of the network's name.  The name of a loaded network is
  never at fault: what decides is the identifier, and of an identifier only whether
  it holds a line feed.  Without one it is sent to the ledger as it is; with one
  nothing is sent, and the caller is told that the name cannot appear in a DID.
-/
import DidLedger.Proofs.Network.Loading
import DidLedger.Proofs.Service.Destination

namespace DidLedger

open DidLedger.Ledger

/-- On a complete network the identifier alone decides whether a DID reads back. -/
theorem Network.Complete.holds_iff {network : Network} (h : network.Complete) (id : String) :
    network.holds id = true ↔ id ≠ "" ∧ '\n' ∉ id.toList := by
  rw [Network.holds_iff, Did.parse?_eq_some_iff]
  constructor
  · rintro ⟨-, hdid⟩
    exact ⟨hdid.id_ne_empty, hdid.lineFeed_notMem⟩
  · rintro ⟨hid, hline⟩
    exact ⟨rfl, h.name_ne_empty, h.colon_notMem, hid, hline⟩

namespace Registry

variable {registry : Registry} {o : CreateOptions}

/-- A network is selected by its name, or as the first one where none is named.  It
    may be another entry of the same name. -/
theorem exists_select {n : Network} (hn : n ∈ registry.networks)
    (hchoice : o.network = some n.name ∨ o.network = none ∧ registry.networks.head? = some n) :
    ∃ e, registry.select o.network = .ok e ∧ e.name = n.name := by
  rcases hchoice with hnamed | ⟨hnone, hfirst⟩
  · have hfound : (registry.networks.find? fun e => e.name == n.name).isSome = true :=
      List.find?_isSome.2 ⟨n, hn, beq_self_eq_true n.name⟩
    obtain ⟨e, he⟩ := Option.isSome_iff_exists.1 hfound
    have hfind := find_eq_ok_iff.2 he
    rw [hnamed]
    exact ⟨e, hfind, name_of_find hfind⟩
  · rw [hnone]
    exact ⟨n, defaultNetwork_eq_ok_iff.2 hfirst, rfl⟩

/-- Where the input is complete and the DID does not read back, the name of the
    network is blamed. -/
theorem planCreate_of_not_holds {e : Network} (hid : o.methodSpecificId ≠ "")
    (hkey : o.verkey ≠ "") (hselect : registry.select o.network = .ok e)
    (hholds : e.holds o.methodSpecificId = false) :
    registry.planCreate o =
      .error (.invalidDid s!"network name '{e.name}' cannot appear in a DID") := by
  have hinput : ¬((o.methodSpecificId.isEmpty || o.verkey.isEmpty) = true) := by
    simpa using ⟨hid, hkey⟩
  have hnot : ¬e.holds o.methodSpecificId = true := by
    rw [hholds]
    exact Bool.false_ne_true
  unfold planCreate
  rw [if_neg hinput, hselect]
  exact if_neg hnot

end Registry

namespace Service

variable {σ : Type}

/-- **On a network of a loaded configuration an identifier is created as it is,
    unless it holds a line feed.**  Then nothing is sent, and the failure blames the
    name of the network, which loading has accepted. -/
theorem create_on_loaded {text : String} {config : Config} (hload : Config.load text = .ok config)
    {n : Network} (hn : n ∈ config.networks) {o : CreateOptions}
    (hchoice : o.network = some n.name ∨ o.network = none ∧ config.networks.head? = some n)
    (hid : o.methodSpecificId ≠ "") (hkey : o.verkey ≠ "") (transport : Transport σ) (s : σ)
    (log : List Errand) :
    let did := "did:" ++ n.name ++ ":" ++ o.methodSpecificId
    let r := create ⟨.ofConfig config, transport.logging⟩ o (s, log)
    ('\n' ∉ o.methodSpecificId.toList → ∃ e ∈ config.networks, e.name = n.name ∧ ∃ body,
      let errand : Errand := ⟨e, ⟨.post, "/CreateTransaction", some body⟩⟩
      errand.dest? = some o.methodSpecificId ∧
        r = (.ofAnswer ⟨did, o.verkey, Document.build did o.verkey⟩
          (transport e errand.request s).1, (transport e errand.request s).2, log ++ [errand])) ∧
    ('\n' ∈ o.methodSpecificId.toList →
      r = (.failed s!"invalid DID: network name '{n.name}' cannot appear in a DID", s, log)) := by
  intro did r
  obtain ⟨e, hselect, hname⟩ := @Registry.exists_select (.ofConfig config) o n hn hchoice
  have hmem : e ∈ config.networks := Registry.mem_of_select hselect
  have hholds := (Config.complete_of_load hload hmem).holds_iff o.methodSpecificId
  constructor
  · intro hline
    have hplan := Registry.planCreate_eq_ok_iff.2
      ⟨⟨hid, hkey⟩, e, hselect, hholds.2 ⟨hid, hline⟩, rfl⟩
    refine ⟨e, hmem, hname, _, Errand.dest?_create e e.name (Registry.creation o), ?_⟩
    have hdid : e.didOf o.methodSpecificId = did := by
      rw [Network.didOf, Did.display, hname]
    simp only [r, create, hplan, write_ok, Registry.creationPlan, hdid]
    rfl
  · intro hline
    have hnot : e.holds o.methodSpecificId = false := by
      rw [← Bool.not_eq_true, hholds]
      exact fun h => h.2 hline
    simp only [r, create, Registry.planCreate_of_not_holds hid hkey hselect hnot, hname]
    rfl

/-- Two networks, the second under the other names of its members. -/
def mainAndTestText : String :=
  "\x7b\"networks\":[\x7b\"name\":\"main\",\"baseUrl\":\"http://a\"\x7d," ++
    "\x7b\"network\":\"testnet\",\"baseUrl\":\"http://b\",\"token\":\"T\"\x7d]\x7d"

def secondNetwork : Network := (Network.new "testnet" "http://b").withToken "T"

def mainAndTest : Config := ⟨[.new "main" "http://a", secondNetwork], none⟩

theorem load_mainAndTestText : Config.load mainAndTestText = .ok mainAndTest :=
  toOption_eq_some_iff.1 (by decide +kernel)

/-- An identifier with a colon, a space and a carriage return. -/
theorem create_on_loaded_colon :
    Config.load mainAndTestText = .ok mainAndTest ∧ ∃ body,
      let errand : Errand := ⟨secondNetwork, ⟨.post, "/CreateTransaction", some body⟩⟩
      errand.dest? = some "pool1:a b\r" ∧
        (create ⟨.ofConfig mainAndTest, (Transport.scripted []).logging⟩
          ⟨"pool1:a b\r", "K", some "testnet", none⟩ (0, [])).2 = (1, [errand]) := by
  refine ⟨load_mainAndTestText, ?_⟩
  have hsecond : secondNetwork ∈ mainAndTest.networks := by decide
  have hcreate := (create_on_loaded load_mainAndTestText hsecond
    (o := ⟨"pool1:a b\r", "K", some "testnet", none⟩) (.inl rfl) (by decide) (by decide)
    (Transport.scripted []) 0 []).1 (by decide)
  obtain ⟨e, hmem, hname, body, hdest, hcreated⟩ := hcreate
  have he : e = secondNetwork := by
    simp only [mainAndTest, List.mem_cons, List.not_mem_nil, or_false] at hmem
    rcases hmem with rfl | rfl
    · exact absurd hname (by decide)
    · rfl
  subst he
  refine ⟨body, hdest, ?_⟩
  rw [hcreated]
  rfl

/-- An identifier with a line feed is not sent, and the accepted name is blamed. -/
theorem create_failed_lineFeed :
    Config.load mainAndTestText = .ok mainAndTest ∧ secondNetwork ∈ mainAndTest.networks ∧
      create ⟨.ofConfig mainAndTest, (Transport.scripted [.ok .null]).logging⟩
        ⟨"demo\n123", "K", some "testnet", none⟩ (0, []) =
          (.failed "invalid DID: network name 'testnet' cannot appear in a DID", 0, []) :=
  ⟨load_mainAndTestText, by decide, rfl⟩

end Service
end DidLedger
