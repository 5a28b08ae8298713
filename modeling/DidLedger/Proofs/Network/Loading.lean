/-
  DidLedger/Proofs/Network/Loading.lean
  =====================================
  **What is known of a configuration that was loaded.**

  Loading reads a configuration and then looks at each of its networks.  So a text
  loads as a configuration exactly when it reads as one and every network of it has
  a name that can stand in a DID and an address (`load_eq_ok_iff`).  The networks
  are looked at one by one: nothing is said of two networks together.
-/
import DidLedger.Network
import DidLedger.Proofs.Except

namespace DidLedger

/-- A network that has what loading asks for. -/
structure Network.Complete (network : Network) : Prop where
  name_ne_empty : network.name ≠ ""
  colon_notMem : ':' ∉ network.name.toList
  baseUrl_ne_empty : network.baseUrl ≠ ""

theorem Network.validate_eq_ok_iff {network : Network} :
    network.validate = .ok () ↔ network.Complete := by
  unfold validate
  simp only [String.isEmpty_iff, List.contains_iff_mem]
  constructor
  · intro h
    split at h
    · cases h
    · rename_i hname
      split at h
      · cases h
      · rename_i hcolon
        split at h
        · cases h
        · rename_i hurl
          exact ⟨hname, hcolon, hurl⟩
  · rintro ⟨hname, hcolon, hurl⟩
    rw [if_neg hname, if_neg hcolon, if_neg hurl]

namespace Config

theorem validate_eq_ok_iff {config : Config} :
    config.validate = .ok () ↔ ∀ n ∈ config.networks, n.Complete := by
  simp only [validate, forM_eq_ok_iff, Network.validate_eq_ok_iff]

/-- **A text loads as a configuration if it reads as one and its networks are
    complete.** -/
theorem load_eq_ok_iff {text : String} {config : Config} :
    load text = .ok config ↔
      shape.readText text = .ok config ∧ ∀ n ∈ config.networks, n.Complete := by
  unfold load
  cases shape.readText text with
  | error fault => simp
  | ok read =>
    simp only [map_eq_ok_iff, Except.ok.injEq, ← validate_eq_ok_iff]
    constructor
    · rintro ⟨_, hvalid, rfl⟩
      exact ⟨rfl, hvalid⟩
    · rintro ⟨rfl, hvalid⟩
      exact ⟨(), hvalid, rfl⟩

theorem complete_of_load {text : String} {config : Config} (h : load text = .ok config)
    {n : Network} (hn : n ∈ config.networks) : n.Complete :=
  (load_eq_ok_iff.1 h).2 n hn

end Config
end DidLedger
