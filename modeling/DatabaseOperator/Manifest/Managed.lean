import DatabaseOperator.Resource
import DatabaseOperator.Validation

/-!
# Databases of either kind

What holds of a declared database whichever kind it is of.

- `ManagedDatabase`: an autonomous or a pluggable database.
- `ManagedDatabase.view`, `ManagedDatabase.validate`: what a pass and its checks
  need of it.
- `ResourceKind.read?`: the database of a document, read as one of a kind, and
  `ResourceKind.form`: what such a document looks like.
- `ResourceKind.finalizer`: the mark by which the operator keeps a resource
  until its remote object is dealt with.
-/

namespace DatabaseOperator

/-- A declared database of either kind. -/
inductive ManagedDatabase where
  | autonomous (db : AutonomousDatabase)
  | pluggable (db : PluggableDatabase)
deriving DecidableEq

namespace ManagedDatabase

/-- The kind of a database. -/
def kind : ManagedDatabase → ResourceKind
  | autonomous _ => .autonomousDatabase
  | pluggable _ => .pluggableDatabase

/-- The metadata of a database. -/
def metadata : ManagedDatabase → Metadata
  | autonomous db => db.metadata
  | pluggable db => db.metadata

/-- The status of a database, as far as there is one. -/
def status? : ManagedDatabase → Option Status
  | autonomous db => db.status
  | pluggable db => db.status

/-- The common view of a database. -/
def view : ManagedDatabase → ManagedResource
  | autonomous db => .ofAutonomous db
  | pluggable db => .ofPluggable db

/-- The first fault of the spec of a database. -/
def validate : ManagedDatabase → Except OperatorError Unit
  | autonomous db => db.validate
  | pluggable db => db.validate

/-- The document of a database. -/
def toJson : ManagedDatabase → Json
  | autonomous db => db.toJson
  | pluggable db => db.toJson

end ManagedDatabase

/-- The database of a document, read as one of a kind. -/
def ResourceKind.read? (kind : ResourceKind) (j : Json) :
    Option ManagedDatabase :=
  match kind with
  | .autonomousDatabase => (AutonomousDatabase.ofJson? j).map .autonomous
  | .pluggableDatabase => (PluggableDatabase.ofJson? j).map .pluggable

/-- The form of documents of a kind. -/
def ResourceKind.form : ResourceKind → Json.Form
  | .autonomousDatabase => AutonomousDatabase.form
  | .pluggableDatabase => PluggableDatabase.form

/-- The mark by which the operator keeps a resource of a kind. -/
def ResourceKind.finalizer : ResourceKind → String
  | .autonomousDatabase => "autonomousdatabase.database.oracle.com/finalizer"
  | .pluggableDatabase => "pluggabledatabase.database.oracle.com/finalizer"

/-- The kind that a name stands for. -/
def ResourceKind.ofText? (name : String) : Option ResourceKind :=
  [autonomousDatabase, pluggableDatabase].find? fun kind => kind.text == name

end DatabaseOperator
