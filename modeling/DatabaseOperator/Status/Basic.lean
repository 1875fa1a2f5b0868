import DatabaseOperator.Attributes
import DatabaseOperator.Lifecycle.State
import DatabaseOperator.Time.Instant

/-!
# Status

What the operator records on a resource: where it is with it, what it last
observed, and what it has sent and not yet seen confirmed. Every kind of managed
database has the same status.

- `Phase`: a summary in one word.
- `Condition`: one aspect, with the reason and the time of its last turn.
- `PendingAction`: an action that is followed from pass to pass, recognised by
  its signature.
- `Status`: all of it, with `Status.toJson` and `Status.ofJson?`.
-/

namespace DatabaseOperator

/-! ## Phases -/

/-- Where the operator is with a resource. -/
inductive Phase where
  | pending
  | provisioning
  | ready
  | updating
  | waiting
  | failed
  | deleting
  | terminated
deriving DecidableEq, Repr, Inhabited

namespace Phase

/-- The name of a phase. -/
def text : Phase → String
  | pending => "Pending"
  | provisioning => "Provisioning"
  | ready => "Ready"
  | updating => "Updating"
  | waiting => "Waiting"
  | failed => "Failed"
  | deleting => "Deleting"
  | terminated => "Terminated"

/-- The phase of a name. -/
def ofText? (name : String) : Option Phase :=
  [pending, provisioning, ready, updating, waiting, failed, deleting,
    terminated].find? fun p => p.text == name

/-- The form of a phase. -/
def form : Json.Form :=
  .choice ["Pending", "Provisioning", "Ready", "Updating", "Waiting", "Failed",
    "Deleting", "Terminated"]

/-- The phase of a JSON document. -/
def ofJson? (j : Json) : Option Phase := do
  ofText? (← j.variant?)

end Phase

/-! ## Conditions and pending actions -/

/-- One aspect of a resource. `status` is `True`, `False` or `Unknown`, and
`lastTransitionTime` is when it last became so. -/
structure Condition where
  type : String
  status : String
  reason : String
  message : String
  lastTransitionTime : String
  observedGeneration : Option Int64 := none
deriving DecidableEq

namespace Condition

/-- The names of the fields of a condition in their order. -/
def fieldNames : List String :=
  ["type", "status", "reason", "message", "lastTransitionTime",
    "observedGeneration"]

/-- The JSON form of a condition. -/
def toJson (c : Condition) : Json :=
  .ofPresent
    [("type", .string c.type),
      ("status", .string c.status),
      ("reason", .string c.reason),
      ("message", .string c.message),
      ("lastTransitionTime", .string c.lastTransitionTime),
      ("observedGeneration",
        .ofOption (fun g => .int g.toInt) c.observedGeneration)]

/-- The form of a condition. -/
def form : Json.Form :=
  .record "struct Condition" true
    [("type", .required, .text), ("status", .required, .text),
      ("reason", .required, .text), ("message", .required, .text),
      ("lastTransitionTime", .required, .text),
      ("observedGeneration", .optional, .int64)]

/-- The condition of a JSON document. -/
def ofJson? (j : Json) : Option Condition := do
  let fs ← j.record? fieldNames
  some
    { type := ← Json.required? "type" Json.string? fs
      status := ← Json.required? "status" Json.string? fs
      reason := ← Json.required? "reason" Json.string? fs
      message := ← Json.required? "message" Json.string? fs
      lastTransitionTime :=
        ← Json.required? "lastTransitionTime" Json.string? fs
      observedGeneration :=
        ← Json.optional? "observedGeneration" Json.int64? fs }

end Condition

/-- An action that is followed across passes: its signature, and the timestamp
of when that began. -/
structure PendingAction where
  signature : String
  since : String
deriving DecidableEq, Repr

namespace PendingAction

/-- The JSON form of a pending action. -/
def toJson (p : PendingAction) : Json :=
  .object [("signature", .string p.signature), ("since", .string p.since)]

/-- The form of a pending action. -/
def form : Json.Form :=
  .record "struct PendingAction" true [("signature", .required, .text),
    ("since", .required, .text)]

/-- The pending action of a JSON document. -/
def ofJson? (j : Json) : Option PendingAction := do
  let fs ← j.record? ["signature", "since"]
  some
    { signature := ← Json.required? "signature" Json.string? fs
      since := ← Json.required? "since" Json.string? fs }

end PendingAction

/-! ## The status -/

/-- The status of a managed database. The identity is that of the remote object
and never changes once it is known; `inFlight` marks an action that was sent,
`waiting` one that is held back, `failedAction` the signature of one that is not
to be repeated. The counters wrap at 32 bits. -/
structure Status where
  phase : Phase := .pending
  identity : Option String := none
  lifecycleState : Option LifecycleState := none
  snapshot : Option RemoteAttributes := none
  inFlight : Option PendingAction := none
  waiting : Option PendingAction := none
  lastCompletedAction : Option String := none
  failedAction : Option String := none
  consecutiveFailures : UInt32 := 0
  consistencyRetries : UInt32 := 0
  walletSecret : Option String := none
  observedGeneration : Option Int64 := none
  conditions : List Condition := []
deriving DecidableEq, Inhabited

namespace Status

/-- The names of the fields of a status in their order. -/
def fieldNames : List String :=
  ["phase", "identity", "lifecycleState", "snapshot", "inFlight", "waiting",
    "lastCompletedAction", "failedAction", "consecutiveFailures",
    "consistencyRetries", "walletSecret", "observedGeneration", "conditions"]

/-- The conditions as JSON; `null` where there are none. -/
def conditionsJson : List Condition → Json
  | [] => .null
  | cs => .array (cs.map Condition.toJson)

/-- The JSON form of a status; what is not set is left out. -/
def toJson (s : Status) : Json :=
  .ofPresent
    [("phase", .string s.phase.text),
      ("identity", .ofOption .string s.identity),
      ("lifecycleState", .ofOption LifecycleState.toJson s.lifecycleState),
      ("snapshot", .ofOption RemoteAttributes.toJson s.snapshot),
      ("inFlight", .ofOption PendingAction.toJson s.inFlight),
      ("waiting", .ofOption PendingAction.toJson s.waiting),
      ("lastCompletedAction", .ofOption .string s.lastCompletedAction),
      ("failedAction", .ofOption .string s.failedAction),
      ("consecutiveFailures", .nat s.consecutiveFailures.toNat),
      ("consistencyRetries", .nat s.consistencyRetries.toNat),
      ("walletSecret", .ofOption .string s.walletSecret),
      ("observedGeneration",
        .ofOption (fun g => .int g.toInt) s.observedGeneration),
      ("conditions", conditionsJson s.conditions)]

/-- The form of a status. -/
def form : Json.Form :=
  .record "struct ManagedStatus" true
    [("phase", .defaulted, Phase.form), ("identity", .optional, .text),
      ("lifecycleState", .optional, .text),
      ("snapshot", .optional, RemoteAttributes.form),
      ("inFlight", .optional, PendingAction.form),
      ("waiting", .optional, PendingAction.form),
      ("lastCompletedAction", .optional, .text),
      ("failedAction", .optional, .text),
      ("consecutiveFailures", .defaulted, .uint32),
      ("consistencyRetries", .defaulted, .uint32),
      ("walletSecret", .optional, .text),
      ("observedGeneration", .optional, .int64),
      ("conditions", .defaulted, .list Condition.form)]

/-- The status of a JSON document. Phase, counters and conditions have a default
but may not be `null`. -/
def ofJson? (j : Json) : Option Status := do
  let fs ← j.record? fieldNames
  some
    { phase := ← Json.defaulted? "phase" Phase.ofJson? .pending fs
      identity := ← Json.optional? "identity" Json.string? fs
      lifecycleState :=
        ← Json.optional? "lifecycleState" LifecycleState.ofJson? fs
      snapshot := ← Json.optional? "snapshot" RemoteAttributes.ofJson? fs
      inFlight := ← Json.optional? "inFlight" PendingAction.ofJson? fs
      waiting := ← Json.optional? "waiting" PendingAction.ofJson? fs
      lastCompletedAction :=
        ← Json.optional? "lastCompletedAction" Json.string? fs
      failedAction := ← Json.optional? "failedAction" Json.string? fs
      consecutiveFailures :=
        ← Json.defaulted? "consecutiveFailures" Json.uint32? 0 fs
      consistencyRetries :=
        ← Json.defaulted? "consistencyRetries" Json.uint32? 0 fs
      walletSecret := ← Json.optional? "walletSecret" Json.string? fs
      observedGeneration := ← Json.optional? "observedGeneration" Json.int64? fs
      conditions :=
        ← Json.defaulted? "conditions" (Json.list? Condition.ofJson?) [] fs }

/-- The spec is not the one that the status was written for, as far as the
generations tell. -/
def isForOtherSpec (s : Status) (generation : Option Int64) : Bool :=
  match generation, s.observedGeneration with
  | some current, some observed => current != observed
  | _, _ => true

/-- The condition of a type. -/
def condition? (s : Status) (type : String) : Option Condition :=
  s.conditions.find? fun c => c.type == type

/-- The observed state in words. -/
def observedText (s : Status) : String :=
  match s.lifecycleState with
  | some state => state.text
  | none => "unknown"

end Status

end DatabaseOperator
