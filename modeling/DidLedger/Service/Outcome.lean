/-
  DidLedger/Service/Outcome.lean
  ==============================
  **What callers hand in and get back.**

  Operations never fail with an error: every failure is folded into an outcome,
  as a sentence for the user.
-/
import DidLedger.Document

namespace DidLedger

/-! ### Input -/

structure CreateOptions where
  /-- The identifier to register under the network. -/
  methodSpecificId : String
  /-- The public key to bind to the DID. -/
  verkey : String
  /-- The network, the default one if none is named. -/
  network : Option String
  /-- The role, the default one if none is named. -/
  role : Option String
deriving DecidableEq, Repr

namespace CreateOptions

/-- Options for the default network and role. -/
def new (id verkey : String) : CreateOptions :=
  ⟨id, verkey, none, none⟩

def empty : CreateOptions := new "" ""

def shape : Shape CreateOptions :=
  .record "CreateOptions"
    (.cons (.withDefault "methodSpecificId" "") .string
      (.cons (.withDefault "verkey" "") .string
        (.cons (.optional "network") (.optional .string)
          (.cons (.optional "role") (.optional .string) .nil))))
    (fun (id, verkey, network, role, _) => ⟨id, verkey, network, role⟩)
    (fun o => (o.methodSpecificId, o.verkey, o.network, o.role, ()))
    (fun _ => rfl)

end CreateOptions

structure UpdateFields where
  /-- The new public key, if it changes. -/
  verkey : Option String
  /-- The new role, the default one if none is named. -/
  role : Option String
deriving DecidableEq, Repr

namespace UpdateFields

def empty : UpdateFields := ⟨none, none⟩

def shape : Shape UpdateFields :=
  .record "UpdateFields"
    (.cons (.optional "verkey") (.optional .string)
      (.cons (.optional "role") (.optional .string) .nil))
    (fun (verkey, role, _) => ⟨verkey, role⟩)
    (fun f => (f.verkey, f.role, ()))
    (fun _ => rfl)

end UpdateFields

/-! ### Output -/

inductive Outcome (α : Type) where
  | finished (value : α)
  | failed (reason : String)
deriving DecidableEq, Repr

def Outcome.isFinished {α : Type} : Outcome α → Bool
  | .finished _ => true
  | .failed _ => false

/-- A DID that was written to a ledger. -/
structure CreatedDid where
  did : String
  verkey : String
  document : Document
deriving DecidableEq, Repr

/-- What became of a resolution.  A ledger that does not know the DID and one
    that cannot be reached look alike; an error was noticed on this side. -/
inductive Resolved where
  | found (document : Document)
  /-- The ledger did not return the DID. -/
  | notFound (message : String)
  | error (message : String)
deriving DecidableEq, Repr

end DidLedger
