/-
  DidLedger/Facade/Calls.lean
  ===========================
  **Runs of calls to the parts of an agent.**

  A host uses the registrar, the resolver and the service side by side.  All of
  them work on one transport, so a run of calls carries its state from one call to
  the next, whichever part answers.
-/
import DidLedger.Facade.Agent

namespace DidLedger.Facade.Agent

open DidLedger

inductive Call where
  /-- An operation of the service itself. -/
  | operation (op : Operation)
  | create (o : DidCreateOptions)
  | update (o : DidUpdateOptions)
  | deactivate (o : DidDeactivateOptions)
  | resolve (did : String)

inductive Reply where
  | report (report : Report)
  | registration (result : DidOperationResult)
  | resolution (resolution : Resolution)

variable {σ : Type}

def run (agent : Agent σ) (s : σ) : Call → Reply × σ
  | .operation op => (agent.service.run s op).map .report id
  | .create o => (agent.registrar.create o s).map .registration id
  | .update o => (agent.registrar.update o s).map .registration id
  | .deactivate o => (agent.registrar.deactivate o s).map .registration id
  | .resolve did => (agent.resolver.resolve did s).map .resolution id

def runAll (agent : Agent σ) (s : σ) : List Call → List Reply × σ
  | [] => ([], s)
  | call :: calls =>
    let (reply, s) := agent.run s call
    let (replies, s) := agent.runAll s calls
    (reply :: replies, s)

end DidLedger.Facade.Agent
