/-
  DidLedger/Network.lean
  ======================
  **Configured ledger networks.**

  A configuration is an ordered list of networks and an optional time limit.
  The first network is the one used where none is named.  Loading a
  configuration checks each network in turn: its name must not be empty and must
  hold no colon, since it becomes the network segment of a DID, and it must have
  a base URL.

  Networks are looked up by exact name, and the first one of a name wins.
-/
import DidLedger.Error
import DidLedger.Shape.Reader
import DidLedger.Shape.Writer

namespace DidLedger

/-! ### Networks and configurations -/

/-- A ledger that can be reached. -/
structure Network where
  /-- The name, which is also the network segment of its DIDs. -/
  name : String
  /-- The base URL of the transaction API. -/
  baseUrl : String
  /-- The value of the authorization header, sent as it is. -/
  authToken : Option String
deriving DecidableEq, Repr

/-- The networks and the time limit of their requests. -/
structure Config where
  networks : List Network
  /-- The time limit of a request in seconds, if there is one. -/
  timeoutSecs : Option UInt64
deriving DecidableEq, Repr

namespace Network

def new (name baseUrl : String) : Network :=
  ⟨name, baseUrl, none⟩

/-- The network with the given authorization value. -/
def withToken (network : Network) (token : String) : Network :=
  { network with authToken := some token }

def shape : Shape Network :=
  .record "NetworkConfig"
    (.cons ((Field.required "name").alsoNamed "network") .string
      (.cons (.required "baseUrl") .string
        (.cons ((Field.optional "authToken").alsoNamed "token") (.optional .string) .nil)))
    (fun (name, baseUrl, authToken, _) => ⟨name, baseUrl, authToken⟩)
    (fun n => (n.name, n.baseUrl, n.authToken, ()))
    (fun _ => rfl)

/-- What a loaded configuration requires of a network. -/
def validate (network : Network) : Except Error Unit :=
  if network.name.isEmpty then .error (.invalidConfig "network name is empty")
  else if network.name.toList.contains ':' then
    .error (.invalidConfig s!"network name '{network.name}' contains ':'")
  else if network.baseUrl.isEmpty then
    .error (.invalidConfig s!"network '{network.name}' has no base URL")
  else .ok ()

end Network

namespace Config

def shape : Shape Config :=
  .record "LedgerConfig"
    (.cons (.required "networks") (.sequence Network.shape)
      (.cons (.optional "timeoutSecs") (.optional .word64) .nil))
    (fun (networks, timeoutSecs, _) => ⟨networks, timeoutSecs⟩)
    (fun c => (c.networks, c.timeoutSecs, ()))
    (fun _ => rfl)

def validate (config : Config) : Except Error Unit :=
  config.networks.forM Network.validate

/-- What is said of a text that is no configuration. -/
def refusal : TextFault → Error
  | .notJson => .invalidConfig "issue parsing config"
  | .misfit misfit => .invalidConfig s!"issue parsing config: {misfit.message}"

def load (text : String) : Except Error Config :=
  match shape.readText text with
  | .error fault => .error (refusal fault)
  | .ok config => config.validate.map fun _ => config

/-- The environment variable that holds a configuration. -/
def environmentVariable : String := "LEDGER_VDR_CONFIG"

/-- Loads a configuration from the value of the environment variable. -/
def loadEnvironment : Option String → Except Error Config
  | some text => load text
  | none => .error (.invalidConfig s!"{environmentVariable}: environment variable not found")

end Config

/-! ### Looking networks up -/

structure Registry where
  networks : List Network
deriving DecidableEq, Repr

namespace Registry

def ofConfig (config : Config) : Registry :=
  ⟨config.networks⟩

def find (registry : Registry) (name : String) : Except Error Network :=
  match registry.networks.find? fun n => n.name == name with
  | some network => .ok network
  | none => .error (.networkNotFound name)

def defaultNetwork (registry : Registry) : Except Error Network :=
  match registry.networks with
  | network :: _ => .ok network
  | [] => .error .configurationEmpty

/-- The network of a name, or the first one where no name is given. -/
def select (registry : Registry) : Option String → Except Error Network
  | some name => registry.find name
  | none => registry.defaultNetwork

def names (registry : Registry) : List String :=
  registry.networks.map (·.name)

end Registry
end DidLedger
