import DatabaseOperator.Cluster.Object
import DatabaseOperator.Manifest.Secret
import DatabaseOperator.Program

/-!
# Calls to the cluster's API

- `ClusterCall`: the calls, with the method, target, content type and body by
  which each one is made.
- `ClusterProgram`: a computation that makes such calls, and `ClusterAction`:
  one that may fail on the way.
- `ClusterCall.send`: a call made, unless its object has no name or no target
  can be written for it.
- `readObject`, `findObject`: an object that has to be there, and one that may
  be missing.
-/

namespace DatabaseOperator

/-- The calls to the cluster's API. A merge patch changes an object or its
status, and an applied document replaces what the operator wrote before. -/
inductive ClusterCall where
  | get (object : ObjectRef)
  | patch (object : ObjectRef) (change : Json)
  | patchStatus (object : ObjectRef) (change : Json)
  | apply (object : ObjectRef) (document : Json)

namespace ClusterCall

/-- The object that a call is about. -/
def object : ClusterCall → ObjectRef
  | get object | patch object _ | patchStatus object _ | apply object _ =>
    object

/-- The method of a call. -/
def method : ClusterCall → String
  | get _ => "GET"
  | patch _ _ | patchStatus _ _ | apply _ _ => "PATCH"

/-- Where a call is to go: the object, and what is to be known of a write beside
it. -/
def address : ClusterCall → String
  | get object | patch object _ => object.path ++ "?"
  | patchStatus object _ => object.path ++ "/status?"
  | apply object _ =>
    object.path ++ "?&force=true&fieldManager=" ++ fieldManager

/-- The target that the address of a call writes. Names may hold marks, so that
the target is not always the object meant. -/
def target? (c : ClusterCall) : Except RequestTarget.Fault RequestTarget :=
  RequestTarget.ofText c.address

/-- The path that a call is sent to. -/
def path (c : ClusterCall) : String :=
  match c.target? with
  | .ok target => target.path
  | .error _ => c.address

/-- The target of a call as logs show it, without question marks at its end. -/
def targetText (c : ClusterCall) : String :=
  let written := match c.target? with
    | .ok target => target.text
    | .error _ => c.address
  String.ofList ((written.toList.reverse.dropWhile (· = '?')).reverse)

/-- The type of the content that a call carries. -/
def contentType : ClusterCall → Option String
  | get _ => none
  | patch _ _ | patchStatus _ _ => some "application/merge-patch+json"
  | apply _ _ => some "application/apply-patch+yaml"

/-- What a call carries. -/
def body : ClusterCall → Option Json
  | get _ => none
  | patch _ change | patchStatus _ change => some change
  | apply _ document => some document

/-- A call as logs show it. -/
def toJson (c : ClusterCall) : Json :=
  .object
    [("method", .string c.method),
      ("target", .string c.targetText),
      ("contentType", .ofOption .string c.contentType),
      ("body", c.body.getD .null)]

/-- What becomes of a call: the object as it is then, or a failure. -/
@[reducible] def Answer (_ : ClusterCall) : Type :=
  Except ClusterError Json

end ClusterCall

/-- A computation that calls the cluster's API. -/
abbrev ClusterProgram : Type → Type :=
  Program ClusterCall ClusterCall.Answer

/-- A computation that calls the cluster's API and may fail on the way. -/
abbrev ClusterAction : Type → Type :=
  ExceptT OperatorError ClusterProgram

/-- A call made. The path of an object without a name is that of all objects of
its kind, so such a call is not sent, nor is one to an address that is no
target. -/
def ClusterCall.send (c : ClusterCall) :
    ClusterProgram (Except ClusterError Json) :=
  if c.object.name.isEmpty then .done (.error .unnamed)
  else match c.target? with
    | .ok _ => Program.query c
    | .error fault => .done (.error (.unsendable fault))

/-- A call that has to succeed. -/
def askCluster (c : ClusterCall) : ClusterAction Json :=
  .mk (c.send.bind fun result => .done (result.mapError .cluster))

/-- An answer read as an object of some form. -/
def readAnswer {α : Type} (form : Json.Form) (read : Json → Option α)
    (j : Json) : Except OperatorError α :=
  match read j with
  | some a => .ok a
  | none => .error (.cluster (.unreadable (form.fault? j)))

/-- An object that has to be there. -/
def readObject {α : Type} (form : Json.Form) (read : Json → Option α)
    (object : ObjectRef) : ClusterAction α := do
  MonadExcept.ofExcept (readAnswer form read (← askCluster (.get object)))

/-- An object that may be missing. -/
def findObject {α : Type} (form : Json.Form) (read : Json → Option α)
    (object : ObjectRef) : ClusterAction (Option α) :=
  .mk ((ClusterCall.get object).send.bind fun
    | .ok j => .done ((readAnswer form read j).map some)
    | .error e => .done (if e.isAbsence then .ok none else .error (.cluster e)))

/-- The text under a key of a Secret, which has to be there. -/
def readSecretKey (namespaceName name key : String) : ClusterAction String := do
  match ← findObject Secret.form Secret.ofJson?
    { kind := .secret, namespaceName, name } with
  | none => throw (.notFound ("secret " ++ namespaceName ++ "/" ++ name))
  | some secret =>
    match secret.read? key with
    | some text => return text
    | none =>
      throw
        (.notFound ("key " ++ key ++ " in secret " ++ namespaceName
          ++ "/" ++ name))

end DatabaseOperator
