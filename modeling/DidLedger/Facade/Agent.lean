/-
  DidLedger/Facade/Agent.lean
  ===========================
  **All parts for a host, built from one configuration.**

  The service, the registrar and the resolver share the networks and the
  transport.
-/
import DidLedger.Facade.Registrar
import DidLedger.Facade.Resolver

namespace DidLedger.Facade

open DidLedger

structure Agent (σ : Type) where
  service : Service σ
  capabilities : Capabilities

namespace Agent

variable {σ : Type}

/-- The parts for the networks of a configuration. -/
def new (config : Config) (transport : Transport σ) : Agent σ :=
  ⟨⟨.ofConfig config, transport⟩, .all⟩

def withCapabilities (agent : Agent σ) (capabilities : Capabilities) : Agent σ :=
  { agent with capabilities := capabilities }

def registrar (agent : Agent σ) : Registrar σ :=
  ⟨agent.service, agent.capabilities⟩

def resolver (agent : Agent σ) : Resolver σ :=
  ⟨agent.service⟩

end Agent
end DidLedger.Facade
