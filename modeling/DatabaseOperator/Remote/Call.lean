import DatabaseOperator.Attributes
import DatabaseOperator.Lifecycle.State
import DatabaseOperator.Pluggable.Request
import DatabaseOperator.Remote.Error

/-!
# Calls to a remote control plane

One interface covers both control planes, the cloud database service and the
gateway of a container database.

- `Snapshot`: what the remote reports of one object.
- `ListFilter`, `ProvisionRequest`: what calls carry, beside `PdbRequest`.
- `RemoteCall`: the calls, and `RemoteCall.Answer`: the type of what each one
  answers.
- `RemoteCall.changes`: the call changes something on the remote.
- `Reply`: a call is answered, fails, or hangs.
-/

namespace DatabaseOperator

/-- What the remote reports of one object. -/
structure Snapshot where
  id : String
  state : LifecycleState
  attributes : RemoteAttributes
deriving DecidableEq

/-- What a list call asks for; a part that is not set does not narrow the
list. -/
structure ListFilter where
  compartmentId : Option String := none
  displayName : Option String := none
deriving DecidableEq, Repr

/-- What is needed to make a cloud database. A control plane that sees a retry
token again takes the call for a repetition of the first one. -/
structure ProvisionRequest where
  attributes : RemoteAttributes := {}
  adminPassword : Option String := none
  retryToken : Option String := none
deriving DecidableEq

/-- The calls that a control plane takes. -/
inductive RemoteCall where
  | get (id : String)
  | list (filter : ListFilter)
  | create (request : ProvisionRequest)
  | cloneDatabase (source : String) (request : ProvisionRequest)
  | update (id : String) (changes : RemoteAttributes)
  | changeState (id : String) (target : LifecycleState)
  | delete (id : String)
  | downloadWallet (id password : String)
  | createPdb (request : PdbRequest)
  | clonePdb (request : PdbRequest)
  | plugPdb (request : PdbRequest)
  | unplugPdb (request : PdbRequest)
  | modifyPdb (request : PdbRequest)
  | deletePdb (request : PdbRequest)
  | mapPdb (request : PdbRequest)
deriving DecidableEq

namespace RemoteCall

/-- What a call answers when it succeeds. -/
@[reducible] def Answer : RemoteCall → Type
  | get _ | create _ | cloneDatabase _ _ | update _ _ | changeState _ _ =>
    Snapshot
  | createPdb _ | clonePdb _ | plugPdb _ | modifyPdb _ | mapPdb _ => Snapshot
  | list _ => List Snapshot
  | delete _ | unplugPdb _ | deletePdb _ => Unit
  | downloadWallet _ _ => ByteArray

/-- The name of a call. -/
def name : RemoteCall → String
  | get _ => "get"
  | list _ => "list"
  | create _ => "create"
  | cloneDatabase _ _ => "clone_database"
  | update _ _ => "update"
  | changeState _ _ => "change_lifecycle_state"
  | delete _ => "delete"
  | downloadWallet _ _ => "download_wallet"
  | createPdb _ => "create_pdb"
  | clonePdb _ => "clone_pdb"
  | plugPdb _ => "plug_pdb"
  | unplugPdb _ => "unplug_pdb"
  | modifyPdb _ => "modify_pdb"
  | deletePdb _ => "delete_pdb"
  | mapPdb _ => "map_pdb"

/-- The call only reads. Every other call may change something on the remote. -/
def isRead : RemoteCall → Bool
  | get _ | list _ | downloadWallet _ _ => true
  | _ => false

/-- The call makes a new object. -/
def createsObject : RemoteCall → Bool
  | create _ | cloneDatabase _ _ | createPdb _ | clonePdb _ | plugPdb _ => true
  | _ => false

end RemoteCall

/-- What becomes of a call. One that hangs is given up after a time by whoever
sent it. -/
inductive Reply (α : Type) where
  | answered (answer : α)
  | failed (error : RemoteError)
  | hung

namespace Reply

/-- The reply with its answer changed. -/
def map {α β : Type} (f : α → β) : Reply α → Reply β
  | answered a => answered (f a)
  | failed e => failed e
  | hung => hung

/-- The outcome of a call that is given up with a message if it hangs. -/
def settle {α : Type} (timeout : String) : Reply α → Except RemoteError α
  | answered a => .ok a
  | failed e => .error e
  | hung => .error (.transient timeout)

end Reply

namespace Snapshot

/-- The JSON form of a snapshot. -/
def toJson (s : Snapshot) : Json :=
  .object [("id", .string s.id), ("state", s.state.toJson),
    ("attributes", s.attributes.toJson)]

end Snapshot

end DatabaseOperator
