import DatabaseOperator.Remote.Call

/-!
# A control plane in memory

A remote on which runs of the operator can be tried: it keeps objects, carries
out calls, and can be told to fail, to lag behind, to lose an answer or never to
give one.

- `SimulatedRemote`: the objects, the faults to come, and the calls seen so far.
- `SimulatedRemote.perform`: the effect of a call on the objects.
- `SimulatedRemote.handle`: a call, faults included.
-/

namespace DatabaseOperator

/-- A control plane in memory. `stale` overrides what direct reads report,
`failures` holds what the next calls of each name fail with (`none` lets one
pass), `lost` names the calls whose next answer does not arrive. `tokens`
remembers the object made under each retry token and `log` the calls, the newest
first. -/
structure SimulatedRemote where
  objects : Dict Snapshot := ∅
  stale : Dict Snapshot := ∅
  failures : Dict (List (Option RemoteError)) := ∅
  lost : List String := []
  hanging : List String := []
  unsupported : List String := []
  tokens : Dict String := ∅
  wallet : Option ByteArray := none
  created : Nat := 0
  log : List RemoteCall := []

namespace SimulatedRemote

/-- The name of the simulated control plane. -/
def backend : String := "fake"

/-! ## Effects -/

/-- An object changed where it stands. -/
def modify (r : SimulatedRemote) (id : String) (change : Snapshot → Snapshot) :
    Except RemoteError Snapshot × SimulatedRemote :=
  match r.objects.get? id with
  | some object =>
    (.ok (change object),
      { r with objects := r.objects.insert id (change object) })
  | none => (.error (.notFound id), r)

/-- An object brought in. -/
def put (r : SimulatedRemote) (object : Snapshot) :
    Except RemoteError Snapshot × SimulatedRemote :=
  (.ok object, { r with objects := r.objects.insert object.id object })

/-- An object taken away. -/
def remove (r : SimulatedRemote) (id : String) :
    Except RemoteError Unit × SimulatedRemote :=
  match r.objects.get? id with
  | some _ => (.ok (), { r with objects := r.objects.erase id })
  | none => (.error (.notFound id), r)

/-- The object that a retry token has made before, if it is still there. -/
def repeated? (r : SimulatedRemote) (token : Option String) :
    Option Snapshot := do
  r.objects.get? (← r.tokens.get? (← token))

/-- A new database, or the one that the retry token has made before. -/
def provision (r : SimulatedRemote) (request : ProvisionRequest) :
    Except RemoteError Snapshot × SimulatedRemote :=
  match r.repeated? request.retryToken with
  | some object => (.ok object, r)
  | none =>
    let id := "ocid1.adb." ++ Text.digits (r.created + 1)
    let tokens := match request.retryToken with
      | some token => r.tokens.insert token id
      | none => r.tokens
    put { r with created := r.created + 1, tokens }
      { id, state := .provisioning, attributes := request.attributes }

/-- A new pluggable database, open and known by its name. -/
def addPdb (r : SimulatedRemote) (name : String) :
    Except RemoteError Snapshot × SimulatedRemote :=
  r.put
    { id := name, state := .available,
      attributes := { displayName := some name } }

/-- What follows only if an object is there. -/
def ifPresent {α : Type} (r : SimulatedRemote) (id : String)
    (result : Except RemoteError α × SimulatedRemote) :
    Except RemoteError α × SimulatedRemote :=
  if r.objects.contains id then result else (.error (.notFound id), r)

/-- What an object answers without being changed. -/
def lookUp (r : SimulatedRemote) (found : Option Snapshot) (id : String) :
    Except RemoteError Snapshot × SimulatedRemote :=
  match found with
  | some object => (.ok object, r)
  | none => (.error (.notFound id), r)

/-- The objects that a filter lets through, by their display name. -/
def listed (r : SimulatedRemote) (filter : ListFilter) : List Snapshot :=
  r.objects.values.filter fun object =>
    filter.displayName.isNone
      || object.attributes.displayName == filter.displayName

/-- The transition that a wanted state sets off. -/
def transitionTo? : LifecycleState → Option LifecycleState
  | .available => some .starting
  | .stopped => some .stopping
  | _ => none

/-- The wallet of a database under a password. -/
def walletBytes (r : SimulatedRemote) (password : String) : ByteArray :=
  r.wallet.getD ("PK-wallet-" ++ password).toUTF8

/-- The effect of a call on the objects. -/
def perform (r : SimulatedRemote) :
    (c : RemoteCall) → Except RemoteError c.Answer × SimulatedRemote
  | .get id => r.lookUp (r.stale.get? id <|> r.objects.get? id) id
  | .list filter => (.ok (r.listed filter), r)
  | .create request => r.provision request
  | .cloneDatabase source request => r.ifPresent source (r.provision request)
  | .update id changes =>
    r.modify id fun object =>
      { object with attributes := object.attributes.overlay changes,
                    state := .updating }
  | .changeState id target =>
    match transitionTo? target with
    | some state => r.modify id fun object => { object with state }
    | none => (.error (.permanent ("cannot move to " ++ target.text)), r)
  | .delete id =>
    let (result, r) := r.modify id fun object =>
      { object with state := .terminating }
    (result.map fun _ => (), r)
  | .downloadWallet id password =>
    r.ifPresent id (.ok (r.walletBytes password), r)
  | .createPdb request => r.addPdb request.pdbName
  | .clonePdb request =>
    r.ifPresent (request.srcPdbName.getD "") (r.addPdb request.pdbName)
  | .plugPdb request => r.addPdb request.pdbName
  | .unplugPdb request => r.remove request.pdbName
  | .modifyPdb request =>
    r.modify request.pdbName fun object =>
      { object with
        state := if request.pdbState = some .closed then .mounted
          else .available }
  | .deletePdb request => r.remove request.pdbName
  | .mapPdb request => r.lookUp (r.objects.get? request.pdbName) request.pdbName

/-! ## Faults -/

/-- The failure that is due for a call of a name, taken off its queue. -/
def dueFailure (r : SimulatedRemote) (name : String) :
    Option RemoteError × SimulatedRemote :=
  match r.failures.get? name with
  | some (due :: later) =>
    (due, { r with failures := r.failures.insert name later })
  | _ => (none, r)

/-- An answer on its way back: it may be lost, once, if the call has had its
effect. -/
def sendBack {α : Type} (r : SimulatedRemote) (c : RemoteCall)
    (result : Except RemoteError α) : Reply α × SimulatedRemote :=
  match result with
  | .error e => (.failed e, r)
  | .ok answer =>
    if !c.isRead && r.lost.contains c.name then
      (.failed (.transient "connection reset"),
        { r with lost := r.lost.filter fun name => name != c.name })
    else (.answered answer, r)

/-- A call: it is noted, may fail or hang without effect, and else has its
effect and answers. -/
def handle (r : SimulatedRemote) (c : RemoteCall) :
    Reply c.Answer × SimulatedRemote :=
  match dueFailure { r with log := c :: r.log } c.name with
  | (some e, r) => (.failed e, r)
  | (none, r) =>
    if r.unsupported.contains c.name
      then (.failed (.unsupported backend c.name), r)
    else if r.hanging.contains c.name then (.hung, r)
    else
      let (result, r) := r.perform c
      r.sendBack c result

end SimulatedRemote

end DatabaseOperator
