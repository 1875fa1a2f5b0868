import DatabaseOperator.Json.Form
import DatabaseOperator.Text.Blank

/-!
# Requests for pluggable databases

A pluggable database lives inside a container database. What a spec asks of it
is one action with parameters, which is carried out once.

- `PdbAction`: the seven actions; `isProvisioning` and `isDestructive` are the
  two groups that matter.
- `PdbState`, `DropAction`: the parameters with a fixed set of values.
- `PdbRequest`: an action with its parameters and credentials.
- `PdbRequest.signature`: a text by which the same one-shot action is recognised
  again. Credentials are no part of it, so that a new password does not repeat
  the action.
-/

namespace DatabaseOperator

/-- What can be done with a pluggable database. -/
inductive PdbAction where
  | create
  | clone
  | plug
  | unplug
  | delete
  | modify
  | map
deriving DecidableEq, Repr

namespace PdbAction

/-- The name of an action. -/
def text : PdbAction → String
  | create => "Create"
  | clone => "Clone"
  | plug => "Plug"
  | unplug => "Unplug"
  | delete => "Delete"
  | modify => "Modify"
  | map => "Map"

/-- The action of a name. -/
def ofText? (name : String) : Option PdbAction :=
  [create, clone, plug, unplug, delete, modify, map].find? fun a =>
    a.text == name

/-- The action brings a pluggable database into being. -/
def isProvisioning : PdbAction → Bool
  | create | clone | plug => true
  | _ => false

/-- The action takes a pluggable database out of its container. -/
def isDestructive : PdbAction → Bool
  | unplug | delete => true
  | _ => false

/-- The action ends with a pluggable database that belongs to the resource,
whether new or found. -/
def givesIdentity (a : PdbAction) : Bool :=
  a.isProvisioning || a == map

/-- The form of an action. -/
def form : Json.Form :=
  .choice ["Create", "Clone", "Plug", "Unplug", "Delete", "Modify", "Map"]

/-- The action of a JSON document. -/
def ofJson? (j : Json) : Option PdbAction := do
  ofText? (← j.variant?)

end PdbAction

/-- The open state that a modification asks for. -/
inductive PdbState where
  | opened
  | closed
deriving DecidableEq, Repr

namespace PdbState

/-- The name of an open state. -/
def text : PdbState → String
  | opened => "OPEN"
  | closed => "CLOSE"

/-- The form of an open state. -/
def form : Json.Form := .choice ["OPEN", "CLOSE"]

/-- The open state of a JSON document. -/
def ofJson? (j : Json) : Option PdbState := do
  let name ← j.variant?
  [opened, closed].find? fun s => s.text == name

end PdbState

/-- Whether the data files go when a pluggable database is dropped. -/
inductive DropAction where
  | including
  | keep
deriving DecidableEq, Repr, Inhabited

namespace DropAction

/-- The name of a drop action. -/
def text : DropAction → String
  | including => "INCLUDING"
  | keep => "KEEP"

/-- The form of a drop action. -/
def form : Json.Form := .choice ["INCLUDING", "KEEP"]

/-- The drop action of a JSON document. -/
def ofJson? (j : Json) : Option DropAction := do
  let name ← j.variant?
  [including, keep].find? fun d => d.text == name

end DropAction

/-- An action on a pluggable database, with its parameters. -/
structure PdbRequest where
  action : PdbAction
  pdbName : String
  srcPdbName : Option String := none
  xmlFileName : Option String := none
  fileNameConversions : Option String := none
  sourceFileNameConversions : Option String := none
  copyAction : Option String := none
  totalSize : Option String := none
  tempSize : Option String := none
  unlimitedStorage : Option Bool := none
  reuseTempFile : Option Bool := none
  tdeImport : Option Bool := none
  pdbState : Option PdbState := none
  modifyOption : Option String := none
  dropAction : DropAction := .including
  adminName : Option String := none
  adminPassword : Option String := none
deriving DecidableEq, Repr

namespace PdbRequest

/-- A parameter as it stands in a signature; nothing where it is not set. -/
def parameter (name : String) (value : Option String) : List String :=
  match value with
  | some v => [name ++ "=" ++ v]
  | none => []

/-- The parameters that tell two requests for one action apart. -/
def parameters (r : PdbRequest) : List String :=
  match r.action with
  | .create | .map => []
  | .clone => parameter "src" r.srcPdbName
  | .plug => parameter "xml" r.xmlFileName ++ parameter "copy" r.copyAction
  | .unplug => parameter "xml" r.xmlFileName
  | .modify =>
    parameter "state" (r.pdbState.map PdbState.text)
      ++ parameter "option" r.modifyOption
  | .delete => parameter "drop" (some r.dropAction.text)

/-- The text by which the action of a request is recognised again. -/
def signature (r : PdbRequest) : String :=
  Text.joinWith "," ((r.action.text ++ ":" ++ r.pdbName) :: r.parameters)

/-- The request with credentials. -/
def withCredentials (r : PdbRequest) (name password : Option String) :
    PdbRequest :=
  { r with adminName := name, adminPassword := password }

/-! ## Small facts -/

theorem signature_withCredentials (r : PdbRequest)
    (name password : Option String) :
    (r.withCredentials name password).signature = r.signature :=
  rfl

end PdbRequest

end DatabaseOperator
