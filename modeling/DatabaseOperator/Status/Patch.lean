import DatabaseOperator.Status.Basic

/-!
# Status as a merge patch

A merge patch keeps what it does not mention, so a patch that is to replace a
whole status has to say `null` for every field that is not set.

- `statusPatch`: the patch for a status, tied to the version of the object that
  was last seen.
-/

namespace DatabaseOperator

/-- The fields of a status that may be missing from its document. -/
def clearableFields : List String :=
  ["identity", "lifecycleState", "snapshot", "inFlight", "waiting",
    "lastCompletedAction", "failedAction", "walletSecret", "observedGeneration",
    "conditions"]

/-- Fields with a `null` added for each name that is missing. -/
def fillNulls (names : List String) (fields : List (String × Json)) :
    List (String × Json) :=
  names.foldl (fun fs name => if (Json.lookup name fs).isSome then fs
    else fs ++ [(name, .null)]) fields

/-- An object with a `null` for each name that is missing; any other value as it
is. -/
def Json.withNulls (names : List String) : Json → Json
  | .object fields => .object (fillNulls names fields)
  | j => j

/-- The fields of a status, each clearable one present, those of a snapshot
likewise. -/
def statusFields (s : Status) : List (String × Json) :=
  match s.toJson.withNulls clearableFields with
  | .object fields =>
    fields.map fun (name, value) =>
      (name,
        if name = "snapshot" then value.withNulls RemoteAttributes.fieldNames
        else value)
  | _ => []

/-- The merge patch that replaces the whole status of an object. With a version
it applies to that version of the object only. -/
def statusPatch (s : Status) (resourceVersion : Option String) : Json :=
  let version := match resourceVersion with
    | some v => [("metadata", Json.object [("resourceVersion", .string v)])]
    | none => []
  .object (("status", .object (statusFields s)) :: version)

end DatabaseOperator
