import DatabaseOperator.Pass.Call
import DatabaseOperator.Simulation.Remote

/-!
# A store in memory

The store of one resource, on which passes can be tried together with a control
plane in memory.

- `SimulatedStore`: the Secrets, the faults to come, and the calls seen so far.
- `SimulatedStore.handle`: a call to the store.
- `Simulation`: remote and store; `Simulation.answer` is what a pass meets
  there.
-/

namespace DatabaseOperator

/-- A store in memory. `saved` is the status last written, `failures` holds what
the next calls of each name fail with, `none` letting one pass, and `log` the
calls, the newest first. -/
structure SimulatedStore where
  secrets : Dict (Dict ByteArray) := ∅
  saved : Option Status := none
  failures : Dict (List (Option OperatorError)) := ∅
  log : List StoreCall := []

namespace SimulatedStore

/-- The failure that is due for a call of a name, taken off its queue. -/
def dueFailure (s : SimulatedStore) (name : String) :
    Option OperatorError × SimulatedStore :=
  match s.failures.get? name with
  | some (due :: later) =>
    (due, { s with failures := s.failures.insert name later })
  | _ => (none, s)

/-- The text of one key of a Secret. -/
def readSecret (s : SimulatedStore) (name key : String) :
    Except OperatorError String :=
  match (s.secrets.get? name).bind (·.get? key) with
  | some bytes => .ok ((String.fromUTF8? bytes).getD "")
  | none => .error (.notFound ("secret " ++ name))

/-- A Secret has a value that is not empty. -/
def hasData (s : SimulatedStore) (name : String) : Bool :=
  (s.secrets.get? name).any fun data => data.values.any fun bytes =>
    bytes.size != 0

/-- The effect of a call. -/
def perform (s : SimulatedStore) :
    (c : StoreCall) → Except OperatorError c.Answer × SimulatedStore
  | .saveStatus status => (.ok (), { s with saved := some status })
  | .releaseFinalizer => (.ok (), s)
  | .readSecret name key => (s.readSecret name key, s)
  | .secretHasData name => (.ok (s.hasData name), s)
  | .writeSecret name data =>
    (.ok (), { s with secrets := s.secrets.insert name data })

/-- A call: it is noted, and fails or has its effect. -/
def handle (s : SimulatedStore) (c : StoreCall) :
    Except OperatorError c.Answer × SimulatedStore :=
  match dueFailure { s with log := c :: s.log } c.name with
  | (some e, s) => (.error e, s)
  | (none, s) => s.perform c

end SimulatedStore

/-- A remote and a store in memory. -/
structure Simulation where
  remote : SimulatedRemote := {}
  store : SimulatedStore := {}

namespace Simulation

/-- What a pass meets in a simulation. -/
def answer (s : Simulation) : (c : PassCall) → c.Answer × Simulation
  | .remote call =>
    let (reply, remote) := s.remote.handle call
    (reply, { s with remote })
  | .store call =>
    let (result, store) := s.store.handle call
    (result, { s with store })

/-- A pass, or part of one, carried out in a simulation. -/
def carryOut {α : Type} (s : Simulation) (program : PassProgram α) :
    α × Simulation :=
  program.interpret answer s

/-- The simulation with nothing on its logs, and no status written. -/
def withoutLogs (s : Simulation) : Simulation :=
  { remote := { s.remote with log := [] },
    store := { s.store with log := [], saved := none } }

end Simulation

end DatabaseOperator
