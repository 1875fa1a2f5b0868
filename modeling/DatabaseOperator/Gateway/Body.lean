import DatabaseOperator.Json.Written
import DatabaseOperator.Remote.Call

/-!
# Bodies of the gateway

What the gateway of a container database is sent and what it answers, as JSON.

- `Gateway.actionBody`: an action on a pluggable database; credentials are added
  by `Gateway.createBody` alone.
- `Gateway.readOpenMode?`, `Gateway.readItems?`: what is answered.
- `Gateway.snapshot`: a pluggable database by its name and open mode.
-/

namespace DatabaseOperator.Gateway

/-! ## What is sent -/

/-- A truth value as the gateway writes it. -/
def yesNo (b : Bool) : Json :=
  .string (if b then "YES" else "NO")

/-- A text that may be missing. -/
def text? (value : Option String) : Json :=
  .ofOption .string value

/-- A text that has a default. -/
def textOr (default : String) (value : Option String) : Json :=
  .string (value.getD default)

/-- The fields of an action; one that is not set holds `null`. -/
def actionFields (r : PdbRequest) : List (String × Json) :=
  match r.action with
  | .create =>
    [("method", .string "CREATE"),
      ("pdb_name", .string r.pdbName),
      ("fileNameConversions", textOr "NONE" r.fileNameConversions),
      ("unlimitedStorage", .ofOption yesNo r.unlimitedStorage),
      ("reuseTempFile", .ofOption yesNo r.reuseTempFile),
      ("totalSize", text? r.totalSize),
      ("tempSize", text? r.tempSize),
      ("tdeImport", .ofOption .bool r.tdeImport),
      ("getScript", .string "FALSE")]
  | .clone =>
    [("method", .string "CLONE"),
      ("clonePDBName", .string r.pdbName),
      ("fileNameConversions", textOr "NONE" r.fileNameConversions),
      ("unlimitedStorage", .ofOption yesNo r.unlimitedStorage),
      ("totalSize", text? r.totalSize),
      ("tempSize", text? r.tempSize),
      ("getScript", .string "FALSE")]
  | .plug =>
    [("method", .string "PLUG"),
      ("pdb_name", .string r.pdbName),
      ("xmlFileName", text? r.xmlFileName),
      ("sourceFileNameConversions", textOr "NONE" r.sourceFileNameConversions),
      ("copyAction", textOr "MOVE" r.copyAction),
      ("fileNameConversions", textOr "NONE" r.fileNameConversions),
      ("unlimitedStorage", .ofOption yesNo r.unlimitedStorage),
      ("reuseTempFile", .ofOption yesNo r.reuseTempFile),
      ("totalSize", text? r.totalSize),
      ("tempSize", text? r.tempSize),
      ("getScript", .string "FALSE")]
  | .unplug =>
    [("method", .string "UNPLUG"),
      ("xmlFileName", text? r.xmlFileName),
      ("getScript", .string "FALSE")]
  | .modify =>
    [("state", .ofOption (fun s => .string s.text) r.pdbState),
      ("modifyOption", text? r.modifyOption),
      ("getScript", .string "FALSE")]
  | .delete =>
    [("action", .string r.dropAction.text), ("getScript", .string "FALSE")]
  | .map => []

/-- The body of an action, without credentials. -/
def actionBody (r : PdbRequest) : Json :=
  .ofPresent (actionFields r)

/-- The body of a call that makes a pluggable database: the action and the
credentials of its administrator. -/
def createBody (r : PdbRequest) : Json :=
  .ofPresent
    (actionFields r
      ++ [("adminName", text? r.adminName),
        ("adminPwd", text? r.adminPassword)])

/-! ## What is answered -/

/-- A pluggable database by its name and open mode. Without a mode it is still
being made. -/
def snapshot (name : String) (mode : Option String) : Snapshot where
  id := name
  state := match mode with
    | some mode => .ofText mode
    | none => .provisioning
  attributes := {}

/-- The open mode and the status of an answer about one pluggable database. -/
def readOpenMode? (text : String) : Option (Option String × Option String) := do
  let names := ["open_mode", "status"]
  let fs ←
    (← (← Written.read? text).ofShape?
      (.record (names.map fun n => (n, .any)))).record? names
  some (← Json.optional? "open_mode" Json.string? fs,
    ← Json.optional? "status" Json.string? fs)

/-- A pluggable database in a list: its name and open mode. -/
def itemOfJson? (j : Json) : Option (String × Option String) := do
  let fs ← j.record? ["pdb_name", "open_mode"]
  some (← Json.required? "pdb_name" Json.string? fs,
    ← Json.optional? "open_mode" Json.string? fs)

/-- The pluggable databases of an answer. -/
def readItems? (text : String) : Option (List (String × Option String)) := do
  let item : Written.Shape := .record [("pdb_name", .any), ("open_mode", .any)]
  let fs ←
    (← (← Written.read? text).ofShape?
      (.record [("items", .list item)])).record? ["items"]
  Json.defaulted? "items" (Json.list? itemOfJson?) [] fs

/-! ## Small facts -/

theorem actionBody_withCredentials (r : PdbRequest)
    (name password : Option String) :
    actionBody (r.withCredentials name password) = actionBody r := by
  cases r with
  | mk action => cases action <;> rfl

end DatabaseOperator.Gateway
