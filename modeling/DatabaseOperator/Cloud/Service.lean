import DatabaseOperator.Cloud.Body
import DatabaseOperator.Http.Address
import DatabaseOperator.Http.Exchange

/-!
# The cloud database service

The control plane of autonomous databases, reached with a token. A create
carries a retry token, so that the service recognises one that is repeated after
a lost answer.

- `Cloud.Service`: where the service is and the token to show it.
- `Cloud.Service.connect?`: the service at an endpoint.
- `Cloud.Service.perform`: a call carried out.
-/

namespace DatabaseOperator.Cloud

/-- Where the service is and the token to show it. -/
structure Service where
  base : String
  token : String
deriving DecidableEq, Repr

namespace Service

/-- The name of the service among the control planes. -/
def backend : String := "cloud"

/-- The service at an endpoint. -/
def connect? (endpoint token : String) : Except RemoteError Service :=
  if isWebAddress endpoint then .ok { base := baseOf endpoint, token }
  else
    .error
      (.permanent ("endpoint must start with http:// or https://, got: "
        ++ endpoint))

variable (s : Service)

/-- The address of the databases, or of something below them. -/
def address (path : String) : Option Url :=
  Url.ofText? (s.base ++ "/20160918/autonomousDatabases" ++ if path = "" then ""
    else "/" ++ path)

/-- A request to an address. -/
def draft (method : HttpMethod) (url : Option Url) (body : Option Json)
    (retryToken : Option String) : HttpDraft where
  method
  url
  authorization := "Bearer " ++ s.token
  retryToken
  body

/-- A request whose answer is one database. -/
def database (method : HttpMethod) (url : Option Url)
    (body : Option Json := none) (retryToken : Option String := none) :
    HttpProgram (Except RemoteError Snapshot) := do
  let outcome ← exchange errorText (s.draft method url body retryToken)
  return outcome.bind (decoded "invalid response body" readDatabase?)

/-- The fields of a query for databases. -/
def filterFields (filter : ListFilter) : List (String × String) :=
  (filter.compartmentId.map fun id => ("compartmentId", id)).toList
    ++ (filter.displayName.map fun name => ("displayName", name)).toList

/-- The transition that brings a database into a wanted state. -/
def transition? : LifecycleState → Option String
  | .available => some "start"
  | .stopped => some "stop"
  | _ => none

/-- The databases that a filter lets through. -/
def list (filter : ListFilter) :
    HttpProgram (Except RemoteError (List Snapshot)) := do
  let url := (s.address "").map fun url => url.addQuery (filterFields filter)
  let outcome ← exchange errorText (s.draft .get url none none)
  return outcome.bind (decoded "invalid response body" readDatabases?)

/-- A database brought into a wanted state, which only some states can be. -/
def changeState (id : String) (target : LifecycleState) :
    HttpProgram (Except RemoteError Snapshot) :=
  match transition? target with
  | some verb => s.database .post (s.address (id ++ "/actions/" ++ verb))
  | none =>
    return .error
      (.permanent (target.text ++ " is not a reachable target state"))

/-- The wallet of a database. -/
def downloadWallet (id password : String) :
    HttpProgram (Except RemoteError ByteArray) := do
  let url := s.address (id ++ "/actions/generateWallet")
  match ← exchange errorText
    (s.draft .post url (some (walletBody password)) none) with
  | .error e => return .error e
  | .ok (some bytes) => return .ok bytes
  | .ok none => return .error (.permanent "error decoding response body")

/-- A call that this control plane does not take. -/
def refuse {α : Type} (c : RemoteCall) : HttpProgram (Except RemoteError α) :=
  return .error (.unsupported backend c.name)

/-- A call carried out. -/
def perform : (c : RemoteCall) → HttpProgram (Except RemoteError c.Answer)
  | .get id => s.database .get (s.address id)
  | .list filter => s.list filter
  | .create request =>
    s.database .post (s.address "") (some (createBody request none))
      request.retryToken
  | .cloneDatabase source request =>
    s.database .post (s.address "") (some (createBody request (some source)))
      request.retryToken
  | .update id changes =>
    s.database .put (s.address id) (some (updateBody changes))
  | .changeState id target => s.changeState id target
  | .delete id =>
    do return (← exchange errorText
      (s.draft .delete (s.address id) none none)).map fun _ => ()
  | .downloadWallet id password => s.downloadWallet id password
  | .createPdb request => refuse (.createPdb request)
  | .clonePdb request => refuse (.clonePdb request)
  | .plugPdb request => refuse (.plugPdb request)
  | .unplugPdb request => refuse (.unplugPdb request)
  | .modifyPdb request => refuse (.modifyPdb request)
  | .deletePdb request => refuse (.deletePdb request)
  | .mapPdb request => refuse (.mapPdb request)

end Service

end DatabaseOperator.Cloud
