/-
  DidLedger/Ledger/Transaction.lean
  =================================
  **Transactions of the ledger: payloads and paths.**

  A transaction has a kind, a network and a content that only the ledger
  interprets.  New transactions and updates are posted to two fixed paths with
  the transaction in the body; reads and deletions name the object in the path,
  percent coded so that it is one segment.
-/
import DidLedger.Shape.Reader
import DidLedger.Shape.Writer
import DidLedger.Text.Percent

namespace DidLedger.Ledger

open DidLedger DidLedger.Text

/-! ### Kinds -/

inductive Kind where
  | nym
  | schema
  /-- The public side of a way to issue credentials. -/
  | credentialDefinition
deriving DecidableEq, Repr

namespace Kind

/-- The name of a kind in bodies and paths. -/
def name : Kind → String
  | .nym => "nym"
  | .schema => "schema"
  | .credentialDefinition => "credentialDefinition"

def shape : Shape Kind :=
  .choice [("nym", .nym), ("schema", .schema), ("credentialDefinition", .credentialDefinition)]
    name (fun a => by cases a <;> rfl)

end Kind

/-! ### Nyms -/

/-- The role of a nym for which none is asked. -/
def defaultRole : String := "TRUST_ANCHOR"

/-- The key sent when an update keeps the key; the ledger interprets it. -/
def unchangedVerkey : String := "unchanged"

structure NymOperation where
  dest : String
  verkey : String
  role : String
deriving DecidableEq, Repr

def NymOperation.shape : Shape NymOperation :=
  .record "NymOperation"
    (.cons (.required "dest") .string
      (.cons (.required "verkey") .string
        (.cons (.required "role") .string .nil)))
    (fun (dest, verkey, role, _) => ⟨dest, verkey, role⟩)
    (fun o => (o.dest, o.verkey, o.role, ()))
    (fun _ => rfl)

/-- A nym as the ledger shows it. -/
structure NymRecord where
  /-- The DID, if the ledger repeats it. -/
  did : Option String
  verkey : String
  /-- The role, if the ledger tells it. -/
  role : Option String
deriving DecidableEq, Repr

def NymRecord.shape : Shape NymRecord :=
  .record "NymRecord"
    (.cons (.trailing "did") (.optional .string)
      (.cons (.required "verkey") .string
        (.cons (.trailing "role") (.optional .string) .nil)))
    (fun (did, verkey, role, _) => ⟨did, verkey, role⟩)
    (fun r => (r.did, r.verkey, r.role, ()))
    (fun _ => rfl)

/-- The answer to a read of a nym. -/
structure ReadResponse where
  result : NymRecord
deriving DecidableEq, Repr

def ReadResponse.shape : Shape ReadResponse :=
  .record "ReadResponse" (.cons (.required "result") NymRecord.shape .nil)
    (fun (result, _) => ⟨result⟩)
    (fun r => (r.result, ()))
    (fun _ => rfl)

/-! ### Transactions -/

structure Transaction where
  kind : Kind
  network : String
  content : Json

namespace Transaction

def nym (network : String) (operation : NymOperation) : Transaction :=
  ⟨.nym, network, .object [("operation", NymOperation.shape.toJson operation)]⟩

/-- The body under which a transaction is new. -/
def createBody (t : Transaction) : Json :=
  .object [("network", .string t.network), ("transaction", t.content), ("type", .string t.kind.name)]

/-- The body under which a transaction updates the object `id`. -/
def updateBody (t : Transaction) (id : String) : Json :=
  .object [("id", .string id), ("transaction", t.content), ("type", .string t.kind.name)]

end Transaction

/-! ### Paths -/

def createPath : String := "/CreateTransaction"

def updatePath : String := "/UpdateTransaction"

/-- What a path of a read begins with. -/
def readRoot : String := "/ReadTransaction/"

/-- What a path of a deletion begins with. -/
def deleteRoot : String := "/DeleteTransaction/"

def readPath (id : String) (kind : Kind) : String :=
  readRoot ++ Percent.encode id ++ "/" ++ kind.name

def deletePath (id : String) : String :=
  deleteRoot ++ Percent.encode id

end DidLedger.Ledger
