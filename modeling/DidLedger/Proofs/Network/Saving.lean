/-
  DidLedger/Proofs/Network/Saving.lean
  ====================================
  **A configuration that was saved loads as it was.**

  A configuration holds no part that was kept as it was found: its text says all of
  it, also an integer of 64 bits, and strings come through their escapes.  What can
  keep a configuration from being loaded again is only that one of its networks is
  incomplete (`load_toText_iff`), and loading has made sure that none is.
-/
import DidLedger.Proofs.Network.Loading
import DidLedger.Proofs.Shape.Text
import DidLedger.Proofs.Shape.WireTypes

namespace DidLedger

theorem Network.canonical (network : Network) : Network.shape.Canonical network := by
  have htoken : (Shape.optional .string).Canonical network.authToken :=
    fun token _ => ⟨Json.noConfusion, trivial⟩
  exact ⟨trivial, trivial, htoken, trivial⟩

namespace Config

theorem canonical (config : Config) : shape.Canonical config := by
  have hnetworks : (Shape.sequence Network.shape).Canonical config.networks :=
    fun network _ => network.canonical
  have htimeout : (Shape.optional .word64).Canonical config.timeoutSecs :=
    fun seconds _ => ⟨Json.noConfusion, trivial⟩
  exact ⟨hnetworks, htimeout, trivial⟩

theorem within_shape : shape.Within Json.Parser.maxDepth :=
  ⟨⟨trivial, trivial, trivial, trivial⟩, trivial, trivial⟩

/-- **A configuration can be saved and loaded if its networks are complete.** -/
theorem load_toText_iff {config : Config} :
    load (shape.toText config) = .ok config ↔ ∀ n ∈ config.networks, n.Complete := by
  rw [load_eq_ok_iff]
  have hread : shape.readText (shape.toText config) = .ok config :=
    Shape.readText_toText regular_shape within_shape config.canonical
  exact and_iff_right hread

/-- **What was loaded is complete, and loads again from the text that it is saved as.** -/
theorem load_toText_of_load {text : String} {config : Config} (h : load text = .ok config) :
    (∀ n ∈ config.networks, n.Complete) ∧ load (shape.toText config) = .ok config := by
  have hcomplete : ∀ n ∈ config.networks, n.Complete := fun n hn => complete_of_load h hn
  exact ⟨hcomplete, load_toText_iff.2 hcomplete⟩

/-- A network as an array, one under other names, escapes and a member of no field. -/
def looseText : String :=
  " \x7b\"note\":[1.5],\"networks\":[[\"main\",\"http:\\/\\/a\",null]," ++
    "\x7b\"token\":\"T\\u0022\",\"baseUrl\":\"http://b\",\"network\":\"test\\u006eet\"\x7d]," ++
    "\"timeoutSecs\":18446744073709551615\x7d"

def loose : Config :=
  ⟨[.new "main" "http://a", (Network.new "testnet" "http://b").withToken "T\""],
    some 18446744073709551615⟩

theorem load_looseText : load looseText = .ok loose :=
  toOption_eq_some_iff.1 (by decide +kernel)

/-- Loosely spelled, a configuration is saved in the one spelling of its own. -/
theorem load_toText_of_load_loose :
    load looseText = .ok loose ∧ (∀ n ∈ loose.networks, n.Complete) ∧
      load (shape.toText loose) = .ok loose :=
  ⟨load_looseText, load_toText_of_load load_looseText⟩

end Config
end DidLedger
