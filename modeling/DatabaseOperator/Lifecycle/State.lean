import DatabaseOperator.Json.Decode
import DatabaseOperator.Text.Blank

/-!
# Lifecycle states

The states in which a remote control plane reports a database. The remote owns
the list of states, so one that is not known here is kept as its text; it
satisfies no rule that asks for a known state.

- `LifecycleState`: the known states and `unrecognised`.
- `LifecycleState.ofText`: the state that a report names, in any case and
  spelling of separators.
- `LifecycleState.text`: the one written form of a state.
- `isReady`, `isTransitional`, `isTerminal`, `isTornDown`, `isLegalTarget`: the
  groups that decisions go by.
- `LifecycleState.convergesTo`: a transition that ends in a wanted state on its
  own.
-/

namespace DatabaseOperator

/-- The state of a remote database. A pluggable database that is closed but
attached is `mounted`, one that has been taken out of its container is
`unplugged`. -/
inductive LifecycleState where
  | provisioning
  | available
  | stopping
  | stopped
  | starting
  | updating
  | scaleInProgress
  | terminating
  | terminated
  | unavailable
  | failed
  | mounted
  | unplugged
  | unrecognised (text : String)
deriving DecidableEq, Repr

namespace LifecycleState

/-- A report with blanks trimmed, ASCII letters in upper case, and hyphens and
spaces as underscores. -/
def normalise (report : String) : String :=
  String.ofList ((Text.trimChars report.toList).map fun c =>
    let c := c.toUpper
    if c = '-' ∨ c = ' ' then '_' else c)

/-- The known state of a normalised report. The open modes of a gateway count as
available. -/
def known? (name : String) : Option LifecycleState :=
  if name = "PROVISIONING" then some provisioning
  else if name = "AVAILABLE" then some available
  else if name = "READ_WRITE" then some available
  else if name = "READ_ONLY" then some available
  else if name = "OPEN" then some available
  else if name = "STOPPING" then some stopping
  else if name = "STOPPED" then some stopped
  else if name = "STARTING" then some starting
  else if name = "UPDATING" then some updating
  else if name = "SCALE_IN_PROGRESS" then some scaleInProgress
  else if name = "TERMINATING" then some terminating
  else if name = "TERMINATED" then some terminated
  else if name = "UNAVAILABLE" then some unavailable
  else if name = "FAILED" then some failed
  else if name = "MOUNTED" then some mounted
  else if name = "UNPLUGGED" then some unplugged
  else none

/-- The state that a report names. An unknown one keeps its text untouched. -/
def ofText (report : String) : LifecycleState :=
  (known? (normalise report)).getD (unrecognised report)

/-- The written form of a state. -/
def text : LifecycleState → String
  | provisioning => "PROVISIONING"
  | available => "AVAILABLE"
  | stopping => "STOPPING"
  | stopped => "STOPPED"
  | starting => "STARTING"
  | updating => "UPDATING"
  | scaleInProgress => "SCALE_IN_PROGRESS"
  | terminating => "TERMINATING"
  | terminated => "TERMINATED"
  | unavailable => "UNAVAILABLE"
  | failed => "FAILED"
  | mounted => "MOUNTED"
  | unplugged => "UNPLUGGED"
  | unrecognised s => s

/-- The state is none of the known ones. -/
def isUnrecognised : LifecycleState → Bool
  | unrecognised _ => true
  | _ => false

/-- The database takes connections or actions. -/
def isReady : LifecycleState → Bool
  | available | mounted => true
  | _ => false

/-- The remote is in the middle of a change that it will finish on its own. -/
def isTransitional : LifecycleState → Bool
  | provisioning | stopping | starting | updating | scaleInProgress
  | terminating => true
  | _ => false

/-- No further change is to be expected unless someone acts. -/
def isTerminal : LifecycleState → Bool
  | terminated | failed | unplugged => true
  | _ => false

/-- The remote object is gone or going. -/
def isTornDown : LifecycleState → Bool
  | terminating | terminated | unplugged => true
  | _ => false

/-- A state that a spec may ask for. -/
def isLegalTarget : LifecycleState → Bool
  | available | stopped => true
  | _ => false

/-- The remote is on its way to the wanted state without further action. Every
change in progress other than a stop ends in `available`. -/
def convergesTo : (observed desired : LifecycleState) → Bool
  | starting, available | provisioning, available | updating, available
  | scaleInProgress, available => true
  | stopping, stopped => true
  | _, _ => false

/-! ## As JSON -/

/-- The JSON form of a state. -/
def toJson (s : LifecycleState) : Json :=
  .string s.text

/-- The state of a JSON text. -/
def ofJson? (j : Json) : Option LifecycleState :=
  j.string?.map ofText

/-! ## Small facts -/

theorem isLegalTarget_iff {s : LifecycleState} :
    s.isLegalTarget = true ↔ s = available ∨ s = stopped := by
  cases s <;> simp [isLegalTarget]

theorem isReady_iff {s : LifecycleState} :
    s.isReady = true ↔ s = available ∨ s = mounted := by
  cases s <;> simp [isReady]

theorem isTornDown_iff {s : LifecycleState} :
    s.isTornDown = true ↔ s = terminating ∨ s = terminated ∨ s = unplugged := by
  cases s <;> simp [isTornDown]

end LifecycleState

end DatabaseOperator
