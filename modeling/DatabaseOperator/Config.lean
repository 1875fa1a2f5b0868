import DatabaseOperator.Text.Blank
import DatabaseOperator.Text.Quoted
import DatabaseOperator.Time.Duration

/-!
# Configuration

The settings of the whole operator, read from named variables.

- `Config`: the settings and their defaults.
- `Config.Error`: a variable that does not fit, or two that do not fit together.
- `Config.ofLookup`: the settings from a look-up of variables.
-/

namespace DatabaseOperator

/-- The settings of the operator. -/
structure Config where
  resyncInterval : Duration := .ofSeconds 60
  pollInterval : Duration := .ofSeconds 10
  maxWait : Duration := .ofSeconds 900
  conflictRequeue : Duration := .ofSeconds 5
  remoteCallTimeout : Duration := .ofSeconds 30
  watchNamespace : Option String := none
  healthPort : Nat := 8080
deriving DecidableEq

namespace Config

/-- Why the variables make no configuration. -/
inductive Error where
  | invalidSeconds (name value : String)
  | invalidPort (name value : String)
  | inconsistent (text : String)
deriving DecidableEq, Repr

/-- The failure in words. -/
def Error.message : Error → String
  | invalidSeconds name value =>
    name ++ " must be a positive integer number of seconds, got "
      ++ Text.quoted value
  | invalidPort name value =>
    name ++ " must be a valid port, got " ++ Text.quoted value
  | inconsistent text => text

/-- A positive number of at most `bound`, blanks around it allowed. -/
def positive? (bound : Nat) (value : String) : Option Nat :=
  match Text.unsigned? bound (Text.trim value) with
  | some n => if 0 < n then some n else none
  | none => none

/-- A variable that holds a positive number of seconds. -/
def seconds (lookup : String → Option String) (name : String)
    (default : Duration) : Except Error Duration :=
  match lookup name with
  | none => .ok default
  | some value =>
    match positive? 18446744073709551615 value with
    | some n => .ok (.ofSeconds n)
    | none => .error (.invalidSeconds name value)

/-- A variable that holds the number of a port. -/
def port (lookup : String → Option String) (name : String) (default : Nat) :
    Except Error Nat :=
  match lookup name with
  | none => .ok default
  | some value =>
    match positive? 65535 value with
    | some n => .ok n
    | none => .error (.invalidPort name value)

/-- The namespace to watch. A blank one stands for all. -/
def watchedNamespace (lookup : String → Option String) : Option String :=
  (lookup "WATCH_NAMESPACE").filter fun name => !Text.isEmptyOrBlank name

/-- The settings of a configuration, none of which may contradict another: a
poll interval beyond the longest wait would never be reached. -/
def consistent (c : Config) : Except Error Config :=
  if c.maxWait < c.pollInterval then
    .error
      (.inconsistent
        ("POLL_INTERVAL_SECS (" ++ Text.digits c.pollInterval.seconds
      ++ ") exceeds MAX_WAIT_SECS (" ++ Text.digits c.maxWait.seconds ++ ")"))
  else .ok c

/-- The configuration that a look-up of variables gives. The port is read first,
and of the durations the first that does not fit is reported. -/
def ofLookup (lookup : String → Option String) : Except Error Config := do
  let defaults : Config := {}
  let healthPort ← port lookup "HEALTH_PORT" defaults.healthPort
  let resyncInterval ← seconds lookup "RESYNC_INTERVAL_SECS"
    defaults.resyncInterval
  let pollInterval ← seconds lookup "POLL_INTERVAL_SECS" defaults.pollInterval
  let maxWait ← seconds lookup "MAX_WAIT_SECS" defaults.maxWait
  let conflictRequeue ← seconds lookup "CONFLICT_REQUEUE_SECS"
    defaults.conflictRequeue
  let remoteCallTimeout ← seconds lookup "REMOTE_CALL_TIMEOUT_SECS"
    defaults.remoteCallTimeout
  consistent
    { resyncInterval, pollInterval, maxWait, conflictRequeue, remoteCallTimeout,
      watchNamespace := watchedNamespace lookup, healthPort }

end Config

end DatabaseOperator
