import DatabaseOperator.Reconciliation
import DatabaseOperator.Simulation.Cluster
import DatabaseOperator.Simulation.Remote

/-!
# A cluster with control planes, in memory

All that a reconciliation meets.

- `SimulatedPlanes`: a control plane in memory, or those that the cluster names,
  none of which answers.
- `SimulatedWorld.answer`: what a reconciliation meets in a cluster with such
  control planes.
-/

namespace DatabaseOperator

/-- The control planes of a simulated world. One in memory serves all databases:
`faults` holds why the next connections fail, `none` letting one succeed. The
control planes that the cluster names are connected to in earnest, but none of
them answers; `connected` is the one last connected to. -/
inductive SimulatedPlanes where
  | inMemory (remote : SimulatedRemote) (faults : List (Option OperatorError))
      (compartment : Option String)
  | unanswering (connected : Option ControlPlane)

/-- A cluster with control planes. -/
structure SimulatedWorld where
  cluster : SimulatedCluster := {}
  planes : SimulatedPlanes

namespace SimulatedWorld

variable (w : SimulatedWorld)

/-- A computation that calls the cluster's API, carried out. -/
def carryOutCluster {α : Type} (program : ClusterProgram α) :
    α × SimulatedWorld :=
  let (result, cluster) := program.interpret SimulatedCluster.handle w.cluster
  (result, { w with cluster })

/-- A connection asked for. -/
def connect (db : ManagedDatabase) :
    Except OperatorError (Option String) × SimulatedWorld :=
  match w.planes with
  | .inMemory remote (some fault :: later) compartment =>
    (.error fault, { w with planes := .inMemory remote later compartment })
  | .inMemory remote faults compartment =>
    (.ok compartment,
      { w with planes := .inMemory remote faults.tail compartment })
  | .unanswering _ =>
    let (result, w) := w.carryOutCluster db.connect
    match result with
    | .ok connection =>
      (.ok connection.defaultCompartment,
        { w with planes := .unanswering (some connection.plane) })
    | .error fault => (.error fault, w)

/-- A call to the control plane. -/
def callRemote (c : RemoteCall) : Reply c.Answer × SimulatedWorld :=
  match w.planes with
  | .inMemory remote faults compartment =>
    let (reply, remote) := remote.handle c
    (reply, { w with planes := .inMemory remote faults compartment })
  | .unanswering (some plane) =>
    match (plane.perform c).unanswered with
    | .ok answer => (.answered answer, w)
    | .error e => (.failed e, w)
  | .unanswering none => (.hung, w)

/-- What a reconciliation meets. -/
def answer (w : SimulatedWorld) : (c : OperatorCall) → c.Answer × SimulatedWorld
  | .cluster call =>
    let (result, cluster) := w.cluster.handle call
    (result, { w with cluster })
  | .connect db => w.connect db
  | .remote call => w.callRemote call

/-- A reconciliation carried out. -/
def carryOut {α : Type} (program : OperatorProgram α) : α × SimulatedWorld :=
  program.interpret answer w

/-- The world with nothing on its logs. -/
def withoutLogs : SimulatedWorld where
  cluster := { w.cluster with log := [] }
  planes := match w.planes with
    | .inMemory remote faults compartment =>
      .inMemory { remote with log := [] } faults compartment
    | .unanswering connected => .unanswering connected

/-- The calls that the control plane in memory has seen, the newest first. -/
def remoteLog : List RemoteCall :=
  match w.planes with
  | .inMemory remote _ _ => remote.log
  | .unanswering _ => []

end SimulatedWorld

end DatabaseOperator
