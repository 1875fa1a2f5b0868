import DatabaseOperator.Cluster.Call

/-!
# A cluster in memory

The API of a cluster on which reconciliations can be tried: it keeps documents,
gives every accepted write a new version, and can be told to fail.

- `SimulatedCluster`: the documents, the failures to come, and the calls seen so
  far.
- `SimulatedCluster.handle`: a call.
-/

namespace DatabaseOperator

/-- A failure that the next call of a method to a path with an ending meets. -/
structure ScriptedFailure where
  method : String
  ending : String
  error : ClusterError
deriving DecidableEq, Repr

/-- The API of a cluster in memory. `objects` holds the documents by their
paths, and `log` the calls, the newest first. -/
structure SimulatedCluster where
  objects : Dict Json := ∅
  failures : List ScriptedFailure := []
  log : List ClusterCall := []

namespace SimulatedCluster

/-! ## Documents -/

/-- A field of the metadata of a document. -/
def metadataField? (name : String) (document : Json) : Option Json :=
  (document.field? "metadata").bind fun m =>
    (m.field? name).filter fun j => !j.isNull

/-- The version of a document. -/
def version? (document : Json) : Option String :=
  (metadataField? "resourceVersion" document).bind Json.string?

/-- The version after that of a document; the first one if it has none that is a
number. -/
def nextVersion (document : Json) : String :=
  match (version? document).bind (Text.unsigned? 18446744073709551615) with
  | some n => Text.digits (n + 1)
  | none => "1"

/-- A document with a version. -/
def withVersion (version : String) (document : Json) : Json :=
  document.mergePatch
    (.object [("metadata", .object [("resourceVersion", .string version)])])

/-- The fields of a value that is an object. -/
def fieldsOf : Json → List (String × Json)
  | .object fields => fields
  | _ => []

/-- Someone asked for the document to be deleted, and no finalizer holds it. -/
def isReleased (document : Json) : Bool :=
  (metadataField? "deletionTimestamp" document).isSome
    && match metadataField? "finalizers" document with
      | none | some (.array []) => true
      | some _ => false

/-! ## Calls -/

variable (c : SimulatedCluster)

/-- The failure that a call meets, and those that are left. -/
def dueFailure (call : ClusterCall) :
    List ScriptedFailure → Option ClusterError × List ScriptedFailure
  | [] => (none, [])
  | f :: rest =>
    if f.method == call.method && f.ending.toList.isSuffixOf call.path.toList
      then (some f.error, rest)
    else
      let (due, left) := dueFailure call rest
      (due, f :: left)

/-- A path without an ending for the status, and whether it has that ending. -/
def splitStatus (path : String) : String × Bool :=
  let ending := "/status".toList.reverse
  if ending.isPrefixOf path.toList.reverse then
    (String.ofList (path.toList.reverse.drop ending.length).reverse, true)
  else (path, false)

/-- The name at the end of a path. -/
def nameAt (path : String) : String :=
  String.ofList (path.toList.reverse.takeWhile (· ≠ '/')).reverse

/-- A document put at a path; one that nothing holds any more disappears. -/
def store (path : String) (document : Json) : SimulatedCluster :=
  if isReleased document then { c with objects := c.objects.erase path }
  else { c with objects := c.objects.insert path document }

/-- A write to the document at a path, unless it was meant for another version
of it. -/
def write (path : String) (document change : Json)
    (visible : List (String × Json)) :
    Except ClusterError Json × SimulatedCluster :=
  let wanted := version? change
  if wanted.isSome && wanted != version? document then
    (.error (.rejected 409 "Conflict" (nameAt path ++ " was modified")), c)
  else
    let written :=
      withVersion (nextVersion document) (document.mergePatch (.object visible))
    (.ok written, c.store path written)

/-- The fields of a change that a write of the status sees. -/
def statusOf (change : Json) : List (String × Json) :=
  (fieldsOf change).filter fun f => f.1 == "status"

/-- The fields of a change that a write of all but the status sees. -/
def withoutStatus (change : Json) : List (String × Json) :=
  (fieldsOf change).filter fun f => f.1 != "status"

/-- The effect of a call. What it writes to is said by the path that it is sent
to. -/
def perform (call : ClusterCall) :
    Except ClusterError Json × SimulatedCluster :=
  let (path, ofStatus) := splitStatus call.path
  match call, c.objects.get? path with
  | .apply _ document, old =>
    let written := withVersion (nextVersion (old.getD .null)) document
    (.ok written, { c with objects := c.objects.insert path written })
  | _, none =>
    (.error (.rejected 404 "NotFound" (nameAt path ++ " not found")), c)
  | .get _, some document => (.ok document, c)
  | .patch _ change, some document | .patchStatus _ change, some document =>
    c.write path document change (if ofStatus then statusOf change
      else withoutStatus change)

/-- A call: it is noted, and fails or has its effect. -/
def handle (call : ClusterCall) : Except ClusterError Json × SimulatedCluster :=
  let (due, failures) := dueFailure call c.failures
  let c := { c with failures, log := call :: c.log }
  match due with
  | some e => (.error e, c)
  | none => c.perform call

end SimulatedCluster

end DatabaseOperator
