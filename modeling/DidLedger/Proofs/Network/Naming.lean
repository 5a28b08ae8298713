/-
  DidLedger/Proofs/Network/Naming.lean
  ====================================
  **Which entry of a configuration a name stands for.**

  Loading looks at each network by itself, so a configuration may have several
  networks of one name, and the name stands for the first of them
  (`Registry.FirstNamed`).  Every network has such an entry, and whatever is asked
  under the name of the network goes there.  It is the network itself if none before
  it has the same name; otherwise the network is out of reach, and its address and
  its token are never used.
-/
import DidLedger.Facade.Registrar
import DidLedger.Proofs.Network.Loading
import DidLedger.Proofs.Service.Plan

namespace DidLedger

namespace Registry

variable {registry : Registry} {name : String}

/-- The entry at `j` is the first one of its name. -/
structure FirstNamed (registry : Registry) (name : String) (j : Fin registry.networks.length) :
    Prop where
  name_eq : registry.networks[j].name = name
  before_ne : ∀ k < j, registry.networks[k].name ≠ name

theorem FirstNamed.find_eq {j : Fin registry.networks.length} (h : registry.FirstNamed name j) :
    registry.find name = .ok registry.networks[j] := by
  rw [find_eq_ok_iff, List.find?_eq_some_iff_getElem]
  refine ⟨beq_iff_eq.2 h.name_eq, j, j.isLt, rfl, ?_⟩
  intro k hk
  have hne := h.before_ne ⟨k, Nat.lt_trans hk j.isLt⟩ hk
  simpa using hne

/-- **Every entry has a first entry of its name**, which does not stand behind it. -/
theorem exists_firstNamed (i : Fin registry.networks.length) :
    ∃ j ≤ i, registry.FirstNamed registry.networks[i].name j := by
  have hsome : (registry.networks.find? fun n => n.name == registry.networks[i].name).isSome :=
    List.find?_isSome.2 ⟨registry.networks[i], List.getElem_mem _, beq_self_eq_true _⟩
  obtain ⟨network, hfind⟩ := Option.isSome_iff_exists.1 hsome
  obtain ⟨hname, j, hj, rfl, hbefore⟩ := List.find?_eq_some_iff_getElem.1 hfind
  have hfirst : registry.FirstNamed registry.networks[i].name ⟨j, hj⟩ := by
    refine ⟨beq_iff_eq.1 hname, ?_⟩
    intro k hk
    simpa using hbefore k hk
  refine ⟨⟨j, hj⟩, ?_, hfirst⟩
  apply Fin.not_lt.1
  intro hlt
  exact hfirst.before_ne i hlt rfl

/-- The first entry of a name is the entry itself if no entry before it has the name. -/
theorem FirstNamed.eq_iff {i j : Fin registry.networks.length} (hj : j ≤ i)
    (h : registry.FirstNamed registry.networks[i].name j) :
    j = i ↔ ∀ k < i, registry.networks[k].name ≠ registry.networks[i].name := by
  constructor
  · rintro rfl
    exact h.before_ne
  · intro hbefore
    apply Fin.le_antisymm hj
    apply Fin.not_lt.1
    intro hlt
    exact hbefore j hlt h.name_eq

theorem nodup_names_iff :
    registry.names.Nodup ↔ ∀ i : Fin registry.networks.length, ∀ k < i,
      registry.networks[k].name ≠ registry.networks[i].name := by
  rw [names, List.Nodup, List.pairwise_map, List.pairwise_iff_getElem]
  exact ⟨fun h i k hk => h k i k.isLt i.isLt hk, fun h k i hk hi hlt => h ⟨i, hi⟩ ⟨k, hk⟩ hlt⟩

/-- The DIDs of a complete network go to the first entry of its name. -/
theorem FirstNamed.locate_eq {j : Fin registry.networks.length} (h : registry.FirstNamed name j)
    (hcomplete : registry.networks[j].Complete) {id : String} (hid : id ≠ "")
    (hline : '\n' ∉ id.toList) :
    registry.locate ("did:" ++ name ++ ":" ++ id) = .ok (⟨name, id⟩, registry.networks[j]) := by
  have hdid : Did.WellFormed ⟨name, id⟩ := by
    rw [← h.name_eq]
    exact ⟨hcomplete.name_ne_empty, hcomplete.colon_notMem, hid, hline⟩
  have hparse := Did.parse?_display hdid
  rw [Did.display] at hparse
  exact locate_eq_ok_iff.2 ⟨hparse, h.find_eq⟩

end Registry

namespace Config

open DidLedger.Facade

/-- **The name of a network in a loaded configuration finds the first network of that
    name**, and so does every DID under it.  The networks are all within reach, and the
    supported methods are all different, exactly if no two networks have one name. -/
theorem names_find_first {text : String} {config : Config} (hload : load text = .ok config)
    {σ : Type} (transport : Transport σ) (offered : Capabilities) :
    let registry := Registry.ofConfig config
    let methods := Registrar.supportedMethods ⟨⟨registry, transport⟩, offered⟩
    (∀ i : Fin config.networks.length, ∃ j ≤ i,
      config.networks[j].name = config.networks[i].name ∧
      (∀ k < j, config.networks[k].name ≠ config.networks[i].name) ∧
      (j = i ↔ ∀ k < i, config.networks[k].name ≠ config.networks[i].name) ∧
      registry.find config.networks[i].name = .ok config.networks[j] ∧
      ∀ id, id ≠ "" → '\n' ∉ id.toList →
        registry.locate ("did:" ++ config.networks[i].name ++ ":" ++ id) =
          .ok (⟨config.networks[i].name, id⟩, config.networks[j])) ∧
    methods = config.networks.map (·.name) ∧
    (methods.Nodup ↔ ∀ i : Fin config.networks.length, ∀ k < i,
      config.networks[k].name ≠ config.networks[i].name) := by
  intro registry methods
  refine ⟨?_, rfl, Registry.nodup_names_iff⟩
  intro i
  obtain ⟨j, hj, hfirst⟩ : ∃ j : Fin config.networks.length, j ≤ i ∧
      registry.FirstNamed config.networks[i].name j := @Registry.exists_firstNamed registry i
  have hcomplete : config.networks[j].Complete := complete_of_load hload (List.getElem_mem _)
  exact ⟨j, hj, hfirst.name_eq, hfirst.before_ne, hfirst.eq_iff hj, hfirst.find_eq,
    fun id hid hline => hfirst.locate_eq hcomplete hid hline⟩

/-- Three networks, of which the last two have one name. -/
def twinText : String :=
  "\x7b\"networks\":[\x7b\"name\":\"main\",\"baseUrl\":\"http://a\"\x7d," ++
    "\x7b\"name\":\"testnet\",\"baseUrl\":\"http://b\"\x7d," ++
    "\x7b\"name\":\"testnet\",\"baseUrl\":\"http://c\",\"authToken\":\"T\"\x7d]\x7d"

def twins : Config :=
  ⟨[.new "main" "http://a", .new "testnet" "http://b",
    (Network.new "testnet" "http://c").withToken "T"], none⟩

theorem load_twinText : load twinText = .ok twins :=
  toOption_eq_some_iff.1 (by decide +kernel)

/-- The third network is out of reach: its name finds the second one. -/
theorem names_find_first_twins :
    load twinText = .ok twins ∧
      (Registry.ofConfig twins).find "testnet" = .ok (.new "testnet" "http://b") ∧
      (Registry.ofConfig twins).locate "did:testnet:pool1:demo123" =
        .ok (⟨"testnet", "pool1:demo123"⟩, .new "testnet" "http://b") := by
  obtain ⟨hfound, -⟩ := names_find_first load_twinText (Transport.scripted []) .all
  obtain ⟨j, -, hname, hbefore, -, hfind, hlocate⟩ := hfound ⟨2, by decide⟩
  have hsecond : ∀ j : Fin twins.networks.length, twins.networks[j].name = "testnet" →
      (∀ k < j, twins.networks[k].name ≠ "testnet") → j = ⟨1, by decide⟩ := by
    decide
  obtain rfl := hsecond j hname hbefore
  exact ⟨load_twinText, hfind, hlocate "pool1:demo123" (by decide) (by decide)⟩

/-- **A loaded network can be shadowed.**  The name of the third one does not find it, and
    the supported methods have it twice. -/
theorem find_ne_of_twins :
    load twinText = .ok twins ∧
      (Registry.ofConfig twins).find twins.networks[2].name ≠ .ok twins.networks[2] ∧
      ¬(Registry.ofConfig twins).names.Nodup := by
  have hfind : (Registry.ofConfig twins).find twins.networks[2].name =
      .ok twins.networks[1] := rfl
  refine ⟨load_twinText, ?_, by decide⟩
  rw [hfind, ne_eq, Except.ok.injEq]
  decide

end Config
end DidLedger
