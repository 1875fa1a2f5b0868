import DatabaseOperator.Gateway.Body
import DatabaseOperator.Http.Address
import DatabaseOperator.Http.Exchange
import DatabaseOperator.Tls.Identity

/-!
# The gateway of a container database

The control plane of pluggable databases, which are known by their names. It is
reached with a user and a password, and over a connection that may ask for a
certificate.

- `Gateway.Settings`: what is needed to reach a gateway.
- `Gateway.Service`: a gateway that can be reached, and
  `Gateway.Service.connect?`: the gateway of settings.
- `Gateway.Service.perform`: a call carried out.
-/

namespace DatabaseOperator.Gateway

/-- What is needed to reach a gateway. `dropAction` says what becomes of the
files of a database that is deleted with its resource. -/
structure Settings where
  baseUrl : String
  user : String
  password : String
  clientKey : Option String := none
  clientCert : Option String := none
  ca : Option String := none
  dropAction : DropAction := .including
deriving DecidableEq, Repr

/-- A gateway that can be reached. -/
structure Service where
  base : String
  user : String
  password : String
  dropAction : DropAction
deriving DecidableEq, Repr

namespace Service

/-- The name of gateways among the control planes. -/
def backend : String := "gateway"

/-- The identity of settings. A key counts only together with a certificate. -/
def identity? (g : Settings) : Except RemoteError (Option Identity) :=
  match g.clientKey, g.clientCert with
  | some key, some cert =>
    match Identity.ofText? (cert ++ "\n" ++ key) with
    | some identity => .ok (some identity)
    | none => .error (.permanent "invalid client TLS material: builder error")
  | _, _ => .ok none

/-- A connection can be made with settings: their authorities can be trusted,
and their identity can be shown. -/
def isConnectable (g : Settings) (identity : Option Identity) : Bool :=
  g.ca.all areAuthorities && identity.all Identity.isUsable

/-- The gateway of settings. -/
def connect? (g : Settings) : Except RemoteError Service :=
  if isWebAddress g.baseUrl then do
    let identity ← identity? g
    if isConnectable g identity then
      .ok
        { base := baseOf g.baseUrl, user := g.user, password := g.password,
          dropAction := g.dropAction }
    else .error (.permanent "builder error")
  else
    .error
      (.permanent ("gateway URL must start with http:// or https://, got: "
        ++ g.baseUrl))

variable (s : Service)

/-- The address of the pluggable databases, or of something below them. -/
def address (path : String) : Option Url :=
  Url.ofText? (s.base ++ "/ords/_/db-api/stable/database/pdbs/" ++ path)

/-- A request sent. -/
def send (method : HttpMethod) (path : String) (body : Option Json) :
    HttpProgram (Except RemoteError (Option ByteArray)) :=
  exchange id
    { method
      url := s.address path
      authorization :=
        "Basic " ++ Base64.encode (s.user ++ ":" ++ s.password).toUTF8
      body }

/-- A pluggable database by its open mode, or by its status if it has no open
mode. -/
def get (name : String) : HttpProgram (Except RemoteError Snapshot) := do
  let outcome ← s.send .get (name ++ "/status") none
  return (outcome.bind (decoded "invalid status body" readOpenMode?)).map
    fun (mode, status) =>
    snapshot name (mode <|> status)

/-- The pluggable databases of a name, upper and lower case being the same in
ASCII. -/
def list (filter : ListFilter) :
    HttpProgram (Except RemoteError (List Snapshot)) := do
  let outcome ← s.send .get "" none
  return (outcome.bind (decoded "invalid list body" readItems?)).map
    fun items =>
    (items.filter fun (name, _) =>
      filter.displayName.all fun wanted =>
        Text.capitals name == Text.capitals wanted).map fun (name, mode) =>
        snapshot name mode

/-- A request that changes a pluggable database, and what becomes of the
database. The change has been made, so that a failure to read it back counts for
nothing. -/
def change (method : HttpMethod) (path : String) (body : Json) (name : String) :
    HttpProgram (Except RemoteError Snapshot) := do
  match ← s.send method path (some body) with
  | .error e => return .error e
  | .ok _ =>
    match ← s.get name with
    | .ok found => return .ok found
    | .error _ => return .ok (snapshot name none)

/-- A pluggable database made from another one. -/
def clone (request : PdbRequest) : HttpProgram (Except RemoteError Snapshot) :=
  match request.srcPdbName with
  | some source =>
    s.change .post (source ++ "/") (actionBody request) request.pdbName
  | none => return .error (.permanent "clone requires a source PDB name")

/-- A request that takes a pluggable database away. -/
def remove (method : HttpMethod) (request : PdbRequest) :
    HttpProgram (Except RemoteError Unit) := do
  let outcome ← s.send method (request.pdbName ++ "/")
    (some (actionBody request))
  return outcome.map fun _ => ()

/-- A pluggable database that is taken over as it is. -/
def map (request : PdbRequest) : HttpProgram (Except RemoteError Snapshot) := do
  let outcome ← s.send .get (request.pdbName ++ "/") none
  return (outcome.bind (decoded "invalid PDB body" readOpenMode?)).map
    fun (mode, _) =>
    snapshot request.pdbName mode

/-- A call that this control plane does not take. -/
def refuse {α : Type} (operation : String) :
    HttpProgram (Except RemoteError α) :=
  return .error (.unsupported backend operation)

/-- A call carried out. -/
def perform : (c : RemoteCall) → HttpProgram (Except RemoteError c.Answer)
  | .get name => s.get name
  | .list filter => s.list filter
  | .create _ => refuse "create"
  | .cloneDatabase _ _ => refuse "clone"
  | .update _ _ => refuse "update"
  | .changeState _ _ => refuse "change_lifecycle_state"
  | .delete name =>
    s.remove .delete
      { action := .delete, pdbName := name, dropAction := s.dropAction }
  | .downloadWallet _ _ => refuse "download_wallet"
  | .createPdb request => s.change .post "" (createBody request) request.pdbName
  | .clonePdb request => s.clone request
  | .plugPdb request => s.change .post "" (actionBody request) request.pdbName
  | .unplugPdb request => s.remove .post request
  | .modifyPdb request =>
    s.change .post (request.pdbName ++ "/status")
      (actionBody request) request.pdbName
  | .deletePdb request => s.remove .delete request
  | .mapPdb request => s.map request

end Service

end DatabaseOperator.Gateway
