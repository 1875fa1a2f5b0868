import DatabaseOperator.Manifest.AutonomousDatabase
import DatabaseOperator.Manifest.PluggableDatabase
import DatabaseOperator.OperatorError

/-!
# Validation of specs

A spec that is not valid never reaches the remote. Of several faults the first
in the order below is reported.

- `AutonomousDatabase.validate`: sizes, the wanted state, and where the database
  comes from.
- `PluggableDatabase.validate`: names, and the parameters that each action
  needs.
-/

namespace DatabaseOperator

/-- A fault of a spec, if a test shows it. -/
def refuseIf (fault : Bool) (error : OperatorError) :
    Except OperatorError Unit :=
  if fault then .error error else .ok ()

/-- A size that is declared may not be below one. -/
def validateMinimum (field : String) (value : Option Int32) :
    Except OperatorError Unit :=
  match value with
  | some n =>
    refuseIf (n < 1)
      (.validation
        (field ++ " " ++ Text.integer n.toInt ++ " is below minimum 1"))
  | none => .ok ()

/-- An identity that is on record never changes. -/
def validateIdentity (field : String) (recorded declared : Option String) :
    Except OperatorError Unit :=
  match recorded, declared with
  | some old, some new =>
    refuseIf (old != new)
      (.permanent (field ++ " cannot change from " ++ old ++ " to " ++ new))
  | _, _ => .ok ()

/-- The first fault of the spec of an autonomous database. -/
def AutonomousDatabase.validate (db : AutonomousDatabase) :
    Except OperatorError Unit := do
  let details := db.spec.details
  validateMinimum "cpuCoreCount" details.cpuCoreCount
  validateMinimum "dataStorageSizeInTBs" details.dataStorageSizeInTbs
  match details.lifecycleState with
  | some state =>
    refuseIf (!state.isLegalTarget)
      (.validation
        ("lifecycleState " ++ state.text
          ++ " cannot be requested; use AVAILABLE or STOPPED"))
  | none => pure ()
  refuseIf (details.autonomousDatabaseId.isSome && details.cloneSource.isSome)
    (.validation
      "autonomousDatabaseOCID and cloneSource are mutually exclusive")
  validateIdentity "autonomousDatabaseOCID" (db.status.bind Status.identity)
    details.autonomousDatabaseId

/-- What an action needs and the spec lacks, in words. -/
def PluggableDatabase.Spec.missing? (s : Spec) : Option String :=
  match s.action with
  | .create =>
    if s.adminName.isNone || s.adminPassword.isNone then
      some "adminName and adminPassword"
    else none
  | .clone => if s.srcPdbName.isNone then some "srcPdbName" else none
  | .plug | .unplug => if s.xmlFileName.isNone then some "xmlFileName" else none
  | .modify => if s.pdbState.isNone then some "pdbState" else none
  | .delete | .map => none

/-- The first fault of the spec of a pluggable database. -/
def PluggableDatabase.validate (db : PluggableDatabase) :
    Except OperatorError Unit := do
  refuseIf (Text.isEmptyOrBlank db.spec.pdbName)
    (.validation "pdbName must not be empty")
  refuseIf (Text.isEmptyOrBlank db.spec.cdbRef)
    (.validation "cdbRef must not be empty")
  match db.spec.missing? with
  | some fields =>
    .error (.validation (db.spec.action.text ++ " requires " ++ fields))
  | none => pure ()
  validateIdentity "pdbName" (db.status.bind Status.identity)
    (some db.spec.pdbName)

end DatabaseOperator
